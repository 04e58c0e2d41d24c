import MarkupCensus.OrderedMap
import MarkupCensus.Report.Value
import MarkupCensus.Tree.Kind

namespace MarkupCensus

/-- Where a component is used. Lines count from one, columns from zero in UTF-16 code units. -/
structure Location where
  file : String
  line : Nat
  column : Nat
deriving DecidableEq, Repr

/-- One use of a component. -/
structure Instance where
  props : OrderedMap Value := []
  spread : Bool := false
  location : Location
deriving DecidableEq, Repr

/-- The location of an offset, its column measured in UTF-16 code units. -/
def Source.location (src : Source) (file : String) (offset : Nat) : Location where
  file := file
  line := src.row offset + 1
  column := Utf8.units16 (Utf8.decode (src.linePart offset))

namespace Node

/-- The value inside the braces of an attribute: that of a literal, else the kind of expression. -/
def bracedValue (src : Source) (n : Node) : Except Fault Value :=
  match n.significant with
  | [] => .ok (.ofString "(JSXEmptyExpression)")
  | inner :: _ =>
    let expression := inner.unwrap
    if expression.isLiteral then expression.literalValue src false
    else .ok (.ofString ("(" ++ expression.expressionKind ++ ")"))

/-- The value of an attribute, which has none if only its name is given. -/
def attributeValue (src : Source) : Option Node → Except Fault Value
  | none => .ok .null
  | some n =>
    if n.kind == "string" then n.literalValue src true
    else if n.kind == "jsx_expression" then n.bracedValue src
    else n.unknown src .value

def namedAttribute (src : Source) (n : Node) : Except Fault (String × Value) :=
  match n.significant with
  | [] => .error (.literal .missingName)
  | name :: parts => do
    return (String.ofList (name.text src), ← attributeValue src parts.head?)

/-- Braces that hold a single spread expression. -/
def isSpread (n : Node) : Bool :=
  match n.significant with
  | [inner] => n.kind == "jsx_expression" && inner.kind == "spread_element"
  | _ => false

def addAttribute (src : Source) (use : Instance) (n : Node) : Except Fault Instance := do
  if n.kind == "jsx_attribute" then
    let (name, value) ← n.namedAttribute src
    return { use with props := use.props.set name value }
  else if n.isSpread then return { use with spread := true }
  else n.unknown src .attribute

/-- The use of a component that a tag is, with its attributes and the location of its name. -/
def use (src : Source) (file : String) (tag : Node) : Except Fault Instance :=
  match tag.child? "name" with
  | none => .error .nameless
  | some name =>
    (tag.childrenIn "attribute").foldlM (addAttribute src)
      { location := src.location file name.start }

end Node

end MarkupCensus
