import MarkupCensus.Grammar.Goal

namespace MarkupCensus.Grammar

open Reader

variable (parts : Parts)

def dottedRest : Reader (List Node) := many do
  let _ ← punctNot "." ['.']
  name "identifier"

def typeArguments : Reader Node := node "type_arguments" do
  let _ ← punctNot "<" ['=']
  let args ← commas (parts .typeExpr)
  guardThat (!args.isEmpty)
  return args ++ [← punct ">"]

def typeParameter : Reader Node := node "type_parameter" do
  let _ ← many do
    let w ← nextWord
    guardThat (w == "const" || w == "in" || w == "out")
    let _ ← word
    guardThat ((← nextWord) != "" && (← nextWord) != "extends")
  let n ← name "type_identifier"
  let bound ← attempt (do let _ ← keyword "extends"; parts .typeExpr)
  let default ← attempt (do let _ ← punctNot "=" ['=', '>']; parts .typeExpr)
  return n :: bound.toList ++ default.toList

def typeParameters : Reader Node := node "type_parameters" do
  let _ ← punct "<"
  let ps ← commas (typeParameter parts)
  guardThat (!ps.isEmpty)
  return ps ++ [← punct ">"]

/-- A type that a function returns, which may be a statement about an argument. -/
def returnType : Reader Node := node "return_type" do
  let asserting : Reader (List Node) := do
    let _ ← keyword "asserts"
    guardThat (!(← onNewLine) && (← nextWord) != "" && (← nextWord) != "is")
    let n ← identifier
    let t ← attempt (do let _ ← keyword "is"; parts .typeExpr)
    return n :: t.toList
  let predicate : Reader (List Node) := do
    let n ← identifier
    guardThat (!(← onNewLine))
    let _ ← keyword "is"
    return [n, ← parts .typeExpr]
  asserting <|> predicate <|> (do return [← parts .typeExpr])

def statedType : Reader Node := node "type_annotation" do
  let _ ← punct ":"
  return [← parts .typeExpr]

def statedReturn : Reader Node := node "type_annotation" do
  let _ ← punct ":"
  return [← returnType parts]

def functionType : Reader Node := node "function_type" do
  if ← ahead (keyword "abstract") then
    let _ ← keyword "abstract"
  let _ ← acceptWord "new"
  let ts ← attempt (typeParameters parts)
  let ps ← parts .parameters
  let _ ← punct "=>"
  return ts.toList ++ [ps, ← returnType parts]

def templateChars : Nat → Reader Unit
  | 0 => return
  | fuel + 1 => do
    match ← peek with
    | none => failure
    | some c =>
      if c == '`' || (c == '$' && (← peekAt 1) == some '\x7b') then return
      else
        if c == '\\' then
          let _ ← escapeSequence
        else advance 1
        templateChars fuel

def template (kind : String) (part : Reader Node) : Reader Node := node kind do
  exactly "`"
  let fuel := (← read).chars.size + 1
  templateChars fuel
  let subs ← many do
    let start ← offset
    exactly "$\x7b"
    let e ← part
    let _ ← punct "\x7d"
    let stop ← offset
    templateChars fuel
    return { kind := "template_substitution", start := start, stop := stop, children := [e] : Node }
  exactly "`"
  return subs

/-- Words before the name of a member. Such a word may be the name itself. -/
def memberModifiers (words : List String) : Reader (List Node) := many do
  let w ← nextWord
  guardThat (words.contains w)
  let k ← keyword w
  match ← tokenChar 0 with
  | none => failure
  | some c => if "(:?=;,\x7d<!)".toList.contains c then failure else return k

def propertyName : Reader Node :=
  name "property_identifier" <|> privateName <|> string <|> number
    <|> node "computed_property_name" do
      let _ ← punct "["
      let e ← parts (.expression false)
      let _ ← punct "]"
      return [e]

def callSignature : Reader (List Node) := do
  let ts ← attempt (typeParameters parts)
  let ps ← parts .parameters
  let r ← attempt (statedReturn parts)
  return ts.toList ++ [ps.as "parameters"] ++ r.toList

def optionalMark : Reader Unit := do
  let _ ← acceptSign
where
  /-- A question or exclamation mark, with a sign that adds or removes it. -/
  acceptSign : Reader Bool := do
    if ← ahead (do let _ ← punct "+" <|> punct "-"; punct "?") then
      let _ ← punct "+" <|> punct "-"
    accept "?"

/-- A member whose name stands in brackets: an index, or all keys of a type. -/
def indexSignature : Reader Node := node "index_signature" do
  if ← ahead (do let _ ← punct "+" <|> punct "-"; keyword "readonly") then
    let _ ← punct "+" <|> punct "-"
  let _ ← acceptWord "readonly"
  let _ ← punct "["
  let _ ← identifier
  let mapped : Reader Unit := do
    let _ ← keyword "in"
    let _ ← parts .typeExpr
    if ← acceptWord "as" then
      let _ ← parts .typeExpr
  let indexed : Reader Unit := do
    let _ ← punct ":"
    let _ ← parts .typeExpr
  mapped <|> indexed
  let _ ← punct "]"
  optionalMark
  let t ← attempt (statedType parts)
  return t.toList

def typeMember : Reader Node := node "property_signature" do
  let index : Reader (List Node) := do return [← indexSignature parts]
  let named : Reader (List Node) := do
    let _ ← memberModifiers ["public", "private", "protected", "static", "override", "readonly",
      "async", "get", "set"]
    let n ← propertyName parts
    let _ ← accept "?"
    let rest ← callSignature parts <|> (do return [← statedType parts]) <|> return []
    return n :: rest
  let construct : Reader (List Node) := do
    let _ ← keyword "new"
    callSignature parts
  index <|> construct <|> callSignature parts <|> named

def objectType : Reader Node := node "object_type" do
  let _ ← punct "\x7b"
  let _ ← accept "," <||> accept ";"
  let ms ← many do
    let m ← typeMember parts
    let closed ← accept "," <||> accept ";"
    guardThat (closed || (← onNewLine) || (← tokenStarts "\x7d"))
    return m
  let _ ← punct "\x7d"
  return ms

def tupleElement : Reader Node := node "tuple_element" do
  let _ ← accept "..."
  let labelled : Reader Node := do
    let _ ← word
    let _ ← accept "?"
    let _ ← punct ":"
    parts .typeExpr
  let t ← labelled <|> parts .typeExpr
  let _ ← accept "?"
  return [t]

def typeQuery : Reader Node := node "type_query" do
  let _ ← keyword "typeof"
  guardThat ((← nextWord) != "")
  let head ←
    if ← ahead (do let _ ← keyword "import"; punct "(") then
      let _ ← keyword "import"
      let _ ← punct "("
      let s ← string
      let _ ← punct ")"
      pure s
    else identifier
  let rest ← many do
    let _ ← punctNot "." ['.']
    name "property_identifier" <|> privateName
  let args ← attempt (typeArguments parts)
  return head :: rest ++ args.toList

def namedType : Reader Node := node "named_type" do
  if ← ahead (do let _ ← keyword "import"; punct "(") then
    let _ ← keyword "import"
    let _ ← punct "("
    let _ ← string
    let _ ← punct ")"
  else
    let _ ← identifier
  let _ ← dottedRest
  let args ← attempt (do guardThat (!(← onNewLine)); typeArguments parts)
  return args.toList

def primaryType : Reader Node :=
  (node "parenthesized_type" do
    let _ ← punct "("
    let t ← parts .typeExpr
    let _ ← punct ")"
    return [t])
  <|> (node "tuple_type" do
    let _ ← punct "["
    let ts ← commas (tupleElement parts)
    let _ ← punct "]"
    return ts)
  <|> objectType parts
  <|> string <|> number
  <|> (node "unary_expression" do
    let _ ← punct "-"
    return [← number])
  <|> template "template_literal_type" (parts .typeExpr)
  <|> typeQuery parts
  <|> namedType parts

def postfixType : Reader Node := node "type" do
  let t ← primaryType parts
  let rest ← many do
    guardThat (!(← onNewLine))
    let _ ← punct "["
    let index ← attempt (parts .typeExpr)
    let _ ← punct "]"
    return index
  return t :: rest.filterMap id

def prefixedType : Reader Node := node "type" do
  let operators ← many do
    let w ← nextWord
    guardThat (w == "keyof" || w == "readonly" || w == "unique")
    let k ← keyword w
    match ← tokenChar 0 with
    | none => failure
    | some c => if isNameChar c || "([\x7b\"'`".toList.contains c then return k else failure
  let inferred : Reader (List Node) := do
    let _ ← keyword "infer"
    let n ← name "type_identifier"
    let bound ← attempt do
      let _ ← keyword "extends"
      let t ← postfixType parts
      guardThat (!(← tokenStarts "?"))
      return t
    return n :: bound.toList
  return operators ++ (← inferred <|> (do return [← postfixType parts]))

def joinedType : Reader Node := node "type" do
  let _ ← accept "|" <||> accept "&"
  let member := functionType parts <|> prefixedType parts
  let t ← member
  let ts ← many do
    let _ ← punctNot "|" ['|', '='] <|> punctNot "&" ['&', '=']
    member
  return t :: ts

def typeExpr : Reader Node := node "type" do
  let t ← joinedType parts
  let conditional ← attempt do
    guardThat (!(← onNewLine) || (← nextWord) == "extends")
    let _ ← keyword "extends"
    let bound ← joinedType parts
    let _ ← punct "?"
    let yes ← parts .typeExpr
    let _ ← punct ":"
    return [bound, yes, ← parts .typeExpr]
  return t :: conditional.getD []

end MarkupCensus.Grammar
