import MarkupCensus.Grammar.Type

namespace MarkupCensus.Grammar

open Reader

variable (parts : Parts)

def initializer : Reader Node := do
  let _ ← punctNot "=" ['=', '>']
  return (← parts (.expression false)).as "value"

def defaulted (pattern : Reader Node) : Reader Node := do
  let p ← pattern
  match ← attempt (initializer parts) with
  | some v => grow "assignment_pattern" p [v]
  | none => return p

def restPattern : Reader Node := node "rest_pattern" do
  let _ ← punct "..."
  return [← parts .binding]

def arrayPattern : Reader Node := node "array_pattern" do
  let _ ← punct "["
  let ps ← sparse (restPattern parts <|> defaulted parts (parts .binding))
  return ps ++ [← punct "]"]

def patternProperty : Reader Node :=
  restPattern parts
  <|> (node "pair_pattern" do
    let key ← propertyName parts
    let _ ← punct ":"
    return [key.as "key", (← defaulted parts (parts .binding)).as "value"])
  <|> defaulted parts (name "shorthand_property_identifier_pattern")

def objectPattern : Reader Node := node "object_pattern" do
  let _ ← punct "\x7b"
  let ps ← sparse (patternProperty parts)
  return ps ++ [← punct "\x7d"]

/-- What a declaration or an assignment binds: a name, or a pattern of places. A place in an
assignment may also be a member of an object. -/
def binding : Reader Node :=
  arrayPattern parts <|> objectPattern parts <|> do
    let n ← identifier
    let links ← many do
      guardThat (!(← onNewLine))
      (do let _ ← punctNot "." ['.']
          name "property_identifier" <|> privateName)
      <|> (do let _ ← punct "["
              let e ← parts .sequence
              let _ ← punct "]"
              return e)
    if links.isEmpty then return n else grow "member_expression" n links

def decorator : Reader Node := node "decorator" do
  let _ ← punct "@"
  let parenthesized : Reader (List Node) := do
    let _ ← punct "("
    let e ← parts (.expression false)
    let _ ← punct ")"
    return [e]
  let dotted : Reader (List Node) := do
    let n ← identifier
    let ns ← many do
      let _ ← punctNot "." ['.']
      name "property_identifier"
    let ts ← attempt (typeArguments parts)
    let args ← attempt do
      let _ ← punct "("
      let as ← sparse (parts (.expression false) <|> node "spread_element" do
        let _ ← punct "..."
        return [← parts (.expression false)])
      let _ ← punct ")"
      return as
    return n :: ns ++ ts.toList ++ args.getD []
  parenthesized <|> dotted

def parameter : Reader Node := node "required_parameter" do
  let ds ← many (decorator parts)
  let _ ← memberModifiers ["public", "private", "protected", "override", "readonly"]
  let p ← restPattern parts <|> (do return (← keyword "this").kinded "this") <|> parts .binding
  let _ ← accept "?"
  let t ← attempt (statedType parts)
  let v ← attempt (initializer parts)
  return ds ++ p :: t.toList ++ v.toList

def parameters : Reader Node := node "formal_parameters" do
  let _ ← punct "("
  let ps ← commas (parameter parts)
  return ps ++ [← punct ")"]

end MarkupCensus.Grammar
