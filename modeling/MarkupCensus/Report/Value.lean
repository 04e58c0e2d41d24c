import MarkupCensus.Number.Numeral
import MarkupCensus.Text.CodePoint

namespace MarkupCensus

/-- The recorded value of an attribute. -/
inductive Value where
  | null
  | bool (b : Bool)
  | number (n : Number)
  | text (t : Text)
deriving DecidableEq, Repr, Inhabited

def Value.ofString (s : String) : Value := .text (Text.ofString s)

def Value.typeName : Value → String
  | .null => "NoneType"
  | .bool _ => "bool"
  | .number (.int _) => "int"
  | .number (.real _) => "float"
  | .text _ => "str"

end MarkupCensus
