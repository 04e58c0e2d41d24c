import MarkupCensus.Text.Blank
import MarkupCensus.Tree.Walk

namespace MarkupCensus

/-- Why a source is not scanned. -/
inductive ParseFailure where
  /-- The tree holds an error. -/
  | malformed (position : Option Position)
  /-- An element's tags name different components. -/
  | unclosed (name : String) (position : Position)
  /-- The name of a tag is no text. -/
  | illFormed (run : Utf8.IllFormed)
deriving DecidableEq, Repr

def Position.describe (p : Position) : String :=
  "line " ++ toString p.line ++ ", column " ++ toString p.column

def ParseFailure.message : ParseFailure → String
  | .malformed none => "syntax error"
  | .malformed (some p) => "syntax error at " ++ p.describe
  | .unclosed name p => "expected closing tag for '" ++ name ++ "' at " ++ p.describe
  | .illFormed run => run.message

namespace Node

/-- The name of an opening or closing tag, without white space. -/
def tagName (src : Source) (tag : Option Node) : Except Utf8.IllFormed (Option String) :=
  match tag.bind (·.child? "name") with
  | none => .ok none
  | some name => (name.strictText src).map fun cs => some (String.ofList (Blank.squeeze cs))

def openName (src : Source) (n : Node) : Except Utf8.IllFormed (Option String) :=
  tagName src (n.child? "open_tag")

def closeName (src : Source) (n : Node) : Except Utf8.IllFormed (Option String) :=
  tagName src (n.child? "close_tag")

/-- What is wrong with an element whose closing tag does not name what its opening tag names. -/
def imbalance? (src : Source) (n : Node) : Option ParseFailure :=
  if n.kind == "jsx_element" then
    match n.openName src, n.closeName src with
    | .ok opened, .ok closed =>
      if opened = closed then none
      else some (.unclosed (opened.getD "") (src.position n.start))
    | .error run, _ | .ok _, .error run => some (.illFormed run)
  else none

def isUnbalanced (src : Source) (n : Node) : Bool := (n.imbalance? src).isSome

def unbalanced? (src : Source) (root : Node) : Option ParseFailure :=
  (searchStack (isUnbalanced src) (fun _ => true) [root]).bind (imbalance? src)

def isFaulty (n : Node) : Bool := n.kind == "ERROR" || n.missing

/-- The first faulty node of a tree; subtrees without errors are passed over. -/
def firstError (src : Source) (root : Node) : ParseFailure :=
  .malformed ((searchStack isFaulty hasError [root]).map fun n => src.position n.start)

/-- Accepts a tree without errors whose elements are balanced. -/
def check (src : Source) (root : Node) : Except ParseFailure Node :=
  if root.hasError then .error (root.firstError src)
  else match root.unbalanced? src with
    | some failure => .error failure
    | none => .ok root

end Node

end MarkupCensus
