import MarkupCensus.Grammar.Binding

namespace MarkupCensus.Grammar

open Reader

variable (parts : Parts)

/-- A function after its keyword: its name, if it has one, its signature and its body. -/
def functionRest (named : Bool) : Reader (List Node) := do
  let n ← if named then (do return some (← identifier)) else attempt freeIdentifier
  let signature ← callSignature parts
  let body ← parts .block
  return n.toList.map (·.as "name") ++ signature ++ [body.as "body"]

def functionExpression : Reader Node := do
  let f ← node "function_expression" do
    let asynchronous ← attempt (keyword "async")
    guardThat (asynchronous.isNone || !(← onNewLine))
    let k ← keyword "function"
    let star ← attempt (punct "*")
    return asynchronous.toList ++ k :: star.toList ++ (← functionRest parts false)
  return if f.children.any (·.kind == "*") then f.kinded "generator_function" else f

/-- What a method has after its name: a signature, and a body unless it is only declared. -/
def methodRest (bodyRequired : Bool) : Reader (List Node) := do
  let signature ← callSignature parts
  match ← attempt (parts .block) with
  | some body => return signature ++ [body.as "body"]
  | none => if bodyRequired then failure else return signature

def method (bodyRequired : Bool) (modifiers : List String) : Reader Node :=
  node "method_definition" do
    let ms ← memberModifiers modifiers
    let star ← attempt (punct "*")
    let n ← propertyName parts
    let _ ← accept "?"
    return ms ++ star.toList ++ n.as "name" :: (← methodRest parts bodyRequired)

def classModifiers : List String :=
  ["public", "private", "protected", "static", "override", "readonly", "abstract", "declare",
   "async", "get", "set", "accessor"]

def classField : Reader Node := node "public_field_definition" do
  let ms ← memberModifiers classModifiers
  let n ← propertyName parts
  let _ ← accept "?" <||> accept "!"
  let t ← attempt (statedType parts)
  let v ← attempt (initializer parts)
  return ms ++ n.as "name" :: t.toList ++ v.toList

def staticBlock : Reader Node := node "class_static_block" do
  let k ← keyword "static"
  return [k, ← parts .block]

def classIndex : Reader Node := do
  let _ ← memberModifiers ["static"]
  indexSignature parts

def classMember : Reader (List Node) := do
  let ds ← many (decorator parts)
  let closed (p : Reader Node) : Reader Node := do
    let m ← p
    let _ ← endStatement true <|> (do guardThat (← onNewLine); return [])
    return m
  let withBody : Reader Node := do
    let m ← method parts false classModifiers
    if m.children.any (·.role == some "body") then
      let _ ← accept ";"
      return m
    else closed (return m)
  let m ← staticBlock parts <|> withBody <|> closed (classIndex parts) <|> closed (classField parts)
  return ds ++ [m]

def classBody : Reader Node := node "class_body" do
  let start ← punct "\x7b"
  let ms ← many (classMember parts <|> (do return [← punct ";"]))
  return start :: ms.flatten ++ [← punct "\x7d"]

def classHeritage : Reader (List Node) := do
  let super ← attempt do
    let _ ← keyword "extends"
    let e ← parts (.operand true)
    let ts ← attempt (typeArguments parts)
    return e :: ts.toList
  let interfaces ← attempt do
    let _ ← keyword "implements"
    commas (parts .typeExpr)
  return super.getD [] ++ interfaces.getD []

def classRest (named : Bool) : Reader (List Node) := do
  let free : Reader Node := do
    let w ← nextWord
    guardThat (w != "extends" && w != "implements")
    name "type_identifier"
  let n ← if named then (do return some (← free)) else attempt free
  let ts ← attempt (typeParameters parts)
  let heritage ← classHeritage parts
  let body ← classBody parts
  return n.toList.map (·.as "name") ++ ts.toList ++ heritage ++ [body.as "body"]

def classExpression : Reader Node := node "class" do
  let ds ← many (decorator parts)
  let k ← keyword "class"
  return ds ++ k :: (← classRest parts false)

end MarkupCensus.Grammar
