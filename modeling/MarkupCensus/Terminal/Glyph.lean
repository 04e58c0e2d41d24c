import MarkupCensus.Text.Case

namespace MarkupCensus.Terminal

/-- Glyphs of the messages, with what stands for them where they cannot be shown. -/
def glyphs : List (Char × String) :=
  [('✓', "[OK]"), ('✗', "[FAIL]"), ('⚠', "[WARN]"), ('→', "->"), ('…', "..."), ('•', "*"),
   ('│', "|"), ('─', "-"), ('📦', "[pkg]"), ('📄', "[file]"), ('🔍', "[search]"), ('📊', "[stats]")]

/-- The encoding in use: that of the output, else the preferred one, else ASCII. -/
def encoding (output preferred : Option String) : String :=
  match output.filter fun s => !s.isEmpty with
  | some name => String.ofList (Case.lowerCase name.toList)
  | none => (preferred.map fun name => String.ofList (Case.lowerCase name.toList)).getD "ascii"

/-- Whether an encoding can show every glyph. -/
def isUniversal (encoding : String) : Bool := ["utf-8", "utf8", "utf_8"].contains encoding

def replaceChar (c : Char) (substitute : List Char) (cs : List Char) : List Char :=
  cs.flatMap fun d => if d = c then substitute else [d]

def replaceGlyphs (cs : List Char) : List Char :=
  glyphs.foldl (fun cs g => replaceChar g.1 g.2.toList cs) cs

/-- The form of a text that a terminal of the given encoding can show. -/
def sanitize (encoding text : String) : String :=
  if isUniversal encoding then text else String.ofList (replaceGlyphs text.toList)

/-- A line of objects set apart by spaces, as a terminal of the given encoding shows it. -/
def line (encoding : String) (objects : List String) : String :=
  String.intercalate " " (objects.map (sanitize encoding)) ++ "\n"

end MarkupCensus.Terminal
