import MarkupCensus.Literal.Fault
import MarkupCensus.Tree.Check

namespace MarkupCensus

/-- What a node was read as when its shape turned out unknown. -/
inductive Expected where
  | name
  | importSpecifier
  | attribute
  | value
  | literal
deriving DecidableEq, Repr

def Expected.describe : Expected → String
  | .name => "name type"
  | .importSpecifier => "import specifier type"
  | .attribute => "attribute type"
  | .value => "node type"
  | .literal => "literal type"

/-- What ends the scan of a tree. -/
inductive Fault where
  /-- A node has a shape that cannot be read. -/
  | shape (expected : Expected) (kind : String) (position : Position)
  /-- A literal has no value, or an attribute no name. -/
  | literal (fault : LiteralFault)
  /-- The name of a tag is no text. -/
  | illFormed (run : Utf8.IllFormed)
  /-- A tag that is to be recorded has no name. -/
  | nameless
  /-- A module that is to be searched for a pattern is no text but of the named type. -/
  | unsearchable (type : String)
deriving DecidableEq, Repr

def Fault.message : Fault → String
  | .shape expected kind p =>
    "Unknown " ++ expected.describe ++ ": " ++ kind ++ " (" ++ p.describe ++ ")"
  | .literal fault => fault.message
  | .illFormed run => run.message
  | .nameless => "'NoneType' object has no attribute 'start_point'"
  | .unsearchable type => "expected string or bytes-like object, got '" ++ type ++ "'"

def Node.unknown {α : Type} (src : Source) (expected : Expected) (n : Node) : Except Fault α :=
  .error (.shape expected n.kind (src.position n.start))

end MarkupCensus
