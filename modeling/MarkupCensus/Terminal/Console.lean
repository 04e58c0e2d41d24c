import MarkupCensus.Terminal.Glyph
import MarkupCensus.Terminal.Table
import MarkupCensus.Text.CodePoint

namespace MarkupCensus.Terminal

/-- The console that a command prints to. What is printed is none if the encoding of the standard
output lacks one of its characters. -/
structure Console where
  /-- The encoding that the standard output names. -/
  output : Option String := none
  /-- The encoding that the locale prefers. -/
  preferred : Option String := none
  /-- A plain text on a line of its own. -/
  echo : Text → Option Text
  /-- Markup that stands for a text. -/
  escape : String → String
  message : String → Option Text
  table : Table → Option Text
  /-- Messages on the standard error, behind a progress bar or not. -/
  diagnostics : Bool → List String → String

namespace Console

def encoding (c : Console) : String := Terminal.encoding c.output c.preferred

/-- Prints a message, sanitized for the encoding in use. -/
def print (c : Console) (markup : String) : Option Text := c.message (sanitize c.encoding markup)

def report (c : Console) (progress : Bool) (messages : List String) : String :=
  c.diagnostics progress (messages.map fun m => sanitize c.encoding (c.escape m))

end Console

/-- A text with a line feed, if all of it can be encoded as UTF-8. -/
def encodable? (t : Text) : Option Text :=
  if t.hasSurrogate then none else some (t ++ Text.ofString "\n")

/-- A console without styles that takes every character. -/
def plain : Console where
  output := some "utf-8"
  echo := encodable?
  escape := escape
  message markup := some (Text.ofString (Terminal.message markup))
  table t := some (Text.ofString t.print)
  diagnostics progress messages :=
    String.join (messages.map unwrapped) ++ if progress then "\n" else ""

end MarkupCensus.Terminal
