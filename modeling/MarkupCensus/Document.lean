import MarkupCensus.Literal.Fault
import MarkupCensus.Number.Shortest
import MarkupCensus.Report.Processor
import MarkupCensus.Text.Quoted

namespace MarkupCensus

/-- A document to be written: nested lists and objects whose keys keep their order. -/
inductive Document where
  | null
  | bool (b : Bool)
  | number (n : Number)
  | text (t : Text)
  | list (items : List Document)
  | object (fields : List (String × Document))
deriving Repr, Inhabited

namespace Document

def ofValue : Value → Document
  | .null => .null
  | .bool b => .bool b
  | .number n => .number n
  | .text t => .text t

def ofNat (n : Nat) : Document := .number (.int n)

def ofString (s : String) : Document := .text (Text.ofString s)

def ofLocation (l : Location) : Document :=
  .object [("file", ofString l.file),
    ("start", .object [("line", ofNat l.line), ("column", ofNat l.column)])]

def ofInstance (use : Instance) : Document :=
  .object [("props", .object (use.props.map fun p => (p.1, ofValue p.2))),
    ("propsSpread", .bool use.spread), ("location", ofLocation use.location)]

mutual

/-- A component; what it does not have, or has nothing in, is left out. -/
def ofComponent : Component → Document
  | ⟨uses, below⟩ =>
    .object ((if (uses.getD []).isEmpty then []
        else [("instances", .list ((uses.getD []).map ofInstance))])
      ++ match below with
        | none => []
        | some cs => if cs.isEmpty then [] else [("components", .object (ofReport cs))])

def ofReport : List (String × Component) → List (String × Document)
  | [] => []
  | (name, c) :: rest => (name, ofComponent c) :: ofReport rest

end

def ofCounts (cs : List Count) : Document := .object (cs.map fun c => (c.1, ofNat c.2))

def ofUsage (u : Usage) : Document :=
  .object [("instances", ofNat u.instances), ("props", ofCounts u.props)]

def ofProcessed : Processed → Document
  | .report r => .object (ofReport r)
  | .counts cs => ofCounts cs
  | .usages us => .object (us.map fun u => (u.1, ofUsage u.2))

/-- Numbers are written with the fewest digits that read back, positionally from `10^-4` to
`10^16`. -/
def numberFormat : Shortest.Format :=
  { positionalFrom := -4, positionalBelow := 16, infinity := "Infinity", notANumber := "NaN" }

/-- The text of a number; an integer of too many digits has none. -/
def numberText? : Number → Option String
  | .int n => if (Nat.toDigits 10 n.natAbs).length ≤ digitLimit then some (toString n) else none
  | .real x => some (numberFormat.render x)

def ascii (s : String) : Text := Text.ofString s

def escaped (c : CodePoint) : Text :=
  let n := c.val
  if n == 0x22 then ascii "\\\""
  else if n == 0x5C then ascii "\\\\"
  else if n == 0x0A then ascii "\\n"
  else if n == 0x0D then ascii "\\r"
  else if n == 0x09 then ascii "\\t"
  else if n == 0x08 then ascii "\\b"
  else if n == 0x0C then ascii "\\f"
  else if n < 0x20 then ascii (String.ofList ('\\' :: 'u' :: Quoted.hex 4 n))
  else [c]

def quoted (t : Text) : Text := ascii "\"" ++ t.flatMap escaped ++ ascii "\""

def newline (level : Nat) : Text := ascii (String.ofList ('\n' :: List.replicate (2 * level) ' '))

/-- A part of a written document: its text, if it has one. -/
abbrev Token := Option Text

def token (s : String) : Token := some (ascii s)

mutual

/-- The tokens of a document: every string is one token. -/
def tokens (level : Nat) : Document → List Token
  | .null => [token "null"]
  | .bool b => [token (if b then "true" else "false")]
  | .number n => [(numberText? n).map ascii]
  | .text t => [some (quoted t)]
  | .list [] => [token "[]"]
  | .list (d :: ds) =>
    token "[" :: some (newline (level + 1)) :: tokens (level + 1) d ++ itemTokens (level + 1) ds
      ++ [some (newline level), token "]"]
  | .object [] => [token "\x7b\x7d"]
  | .object ((k, d) :: fs) =>
    token "\x7b" :: some (newline (level + 1)) :: some (quoted (Text.ofString k)) :: token ": "
      :: tokens (level + 1) d ++ fieldTokens (level + 1) fs ++ [some (newline level), token "\x7d"]

def itemTokens (level : Nat) : List Document → List Token
  | [] => []
  | d :: ds => token "," :: some (newline level) :: tokens level d ++ itemTokens level ds

def fieldTokens (level : Nat) : List (String × Document) → List Token
  | [] => []
  | (k, d) :: fs =>
    token "," :: some (newline level) :: some (quoted (Text.ofString k)) :: token ": "
      :: tokens level d ++ fieldTokens level fs

end

/-- Why a document cannot be written. -/
inductive Unwritable where
  /-- An integer has too many digits. -/
  | overlongInteger
  /-- A text holds a lone surrogate. -/
  | loneSurrogate
deriving DecidableEq, Repr

/-- The text of a document, made at once before it is printed. -/
def text? (d : Document) : Option Text := ((d.tokens 0).mapM id).map List.flatten

/-- Writes tokens one by one up to the first that cannot be written: what is written then, and what is
wrong with that token. -/
def writeTokens : List Token → String × Option Unwritable
  | [] => ("", none)
  | none :: _ => ("", some .overlongInteger)
  | some t :: rest =>
    match t.toString? with
    | none => ("", some .loneSurrogate)
    | some s => (s ++ (writeTokens rest).1, (writeTokens rest).2)

/-- What is written of a document to a file, and what keeps the rest from being written. -/
def write (d : Document) : String × Option Unwritable := writeTokens (d.tokens 0)

end Document

end MarkupCensus
