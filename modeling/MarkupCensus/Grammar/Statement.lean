import MarkupCensus.Grammar.Expression

namespace MarkupCensus.Grammar

open Reader

variable (parts : Parts)

/-- Statements one after another, and comments in the style of markup before, between and after. -/
def statements : Reader (List Node) := do
  let ss ← many (do skipMarked; parts .statement)
  skipMarked
  return ss

def block : Reader Node := node "statement_block" do
  let start ← punct "\x7b"
  let ss ← statements parts
  return start :: ss ++ [← punct "\x7d"]

def condition : Reader Node := node "parenthesized_expression" do
  let start ← punct "("
  let e ← parts .sequence
  return [start, e, ← punct ")"]

def expressionStatement : Reader Node := node "expression_statement" do
  let e ← parts .sequence
  return e :: (← endStatement true)

def declared : Reader Node := arrayPattern parts <|> objectPattern parts <|> identifier

def declarator : Reader Node := node "variable_declarator" do
  let n ← declared parts
  let _ ← accept "!"
  let t ← attempt (statedType parts)
  let v ← attempt (initializer parts)
  return n.as "name" :: t.toList ++ v.toList

/-- Declared names with their values, without the end of the statement. -/
def declarators (keywords : List String) : Reader (List Node) := do
  let w ← nextWord
  guardThat (keywords.contains w)
  let k ← keyword w
  let first ← declarator parts
  let rest ← many (do let _ ← punct ","; declarator parts)
  return k :: first :: rest

def declarationWords : List String := ["var", "let", "const"]

def lexicalDeclaration : Reader Node := node "lexical_declaration" do
  let ds ← declarators parts declarationWords
  let valued := (ds.getLast?.map fun d => d.children.any (·.role == some "value")).getD false
  return ds ++ (← endStatement valued)

def ifStatement : Reader Node := node "if_statement" do
  let k ← keyword "if"
  let c ← condition parts
  let yes ← parts .statement
  let no ← attempt (keyword "else")
  match no with
  | none => return [k, c.as "condition", yes.as "consequence"]
  | some e => return [k, c.as "condition", yes.as "consequence", e, ← parts .statement]

def loopOver : Reader (List Node) := do
  let k ← attempt do
    let w ← nextWord
    guardThat (declarationWords.contains w)
    keyword w
  let left ← match k with
    | some _ => declared parts
    | none => destructuringTarget <|> parts (.operand true)
  let value ← attempt (initializer parts)
  let op ← keyword "in" <|> keyword "of"
  let right ← parts .sequence
  return k.toList ++ [left.as "left"] ++ value.toList ++ [op, right.as "right"]
where
  /-- A pattern that takes the members apart. -/
  destructuringTarget : Reader Node := arrayPattern parts <|> objectPattern parts

def loopSteps : Reader (List Node) := do
  let start ← (do return (← declarators parts declarationWords) ++ [← punct ";"])
    <|> (do return [← parts .sequence, ← punct ";"]) <|> (do return [← punct ";"])
  let test ← attempt (parts .sequence)
  let semi ← punct ";"
  let step ← attempt (parts .sequence)
  return start ++ test.toList ++ semi :: step.toList

def forStatement : Reader Node := node "for_statement" do
  let k ← keyword "for"
  let _ ← acceptWord "await"
  let open_ ← punct "("
  let head ← (do let h ← loopOver parts; let _ ← punct ")"; return h)
    <|> (do let h ← loopSteps parts; let _ ← punct ")"; return h)
  return k :: open_ :: head ++ [(← parts .statement).as "body"]

def whileStatement : Reader Node := node "while_statement" do
  let k ← keyword "while"
  let c ← condition parts
  return [k, c.as "condition", (← parts .statement).as "body"]

def doStatement : Reader Node := node "do_statement" do
  let k ← keyword "do"
  let body ← parts .statement
  let w ← keyword "while"
  let c ← condition parts
  let _ ← accept ";"
  return [k, body.as "body", w, c.as "condition"]

def switchCase : Reader Node := node "switch_case" do
  let label : Reader (List Node) :=
    (do let k ← keyword "case"; return [k, ← parts .sequence])
    <|> (do return [← keyword "default"])
  let head ← label
  let colon ← punct ":"
  let body ← many do
    let w ← nextWord
    guardThat (w != "case" && w != "default")
    parts .statement
  return head ++ colon :: body

def switchStatement : Reader Node := node "switch_statement" do
  let k ← keyword "switch"
  let c ← condition parts
  let start ← punct "\x7b"
  let cases ← many (switchCase parts)
  return k :: c :: start :: cases ++ [← punct "\x7d"]

def tryStatement : Reader Node := node "try_statement" do
  let k ← keyword "try"
  let body ← block parts
  let handler ← if ← ahead (keyword "catch") then some <$> catchClause else pure none
  let finalizer ← if ← ahead (keyword "finally") then some <$> finallyClause else pure none
  return k :: body :: handler.toList ++ finalizer.toList
where
  /-- What is done about an error. -/
  catchClause : Reader Node := node "catch_clause" do
    let k ← keyword "catch"
    let p ← attempt do
      let _ ← punct "("
      let p ← declared parts
      let t ← attempt (statedType parts)
      let _ ← punct ")"
      return p :: t.toList
    return k :: p.getD [] ++ [← block parts]
  /-- What is done in any case. -/
  finallyClause : Reader Node := node "finally_clause" do
    let k ← keyword "finally"
    return [k, ← block parts]

def jumpStatement (w : String) : Reader Node := node (w ++ "_statement") do
  let k ← keyword w
  let label ← attempt (do guardThat (!(← onNewLine)); identifier)
  return k :: label.toList ++ (← endStatement false)

def valueStatement (w : String) (optional : Bool) : Reader Node := node (w ++ "_statement") do
  let k ← keyword w
  let ends ← if optional then ahead (endStatement false) else pure false
  if ends then return k :: (← endStatement false)
  else
    let e ← parts .sequence
    return k :: e :: (← endStatement true)

def withStatement : Reader Node := node "with_statement" do
  let k ← keyword "with"
  let c ← condition parts
  return [k, c, ← parts .statement]

def labeledStatement : Reader Node := node "labeled_statement" do
  let l ← identifier
  let colon ← punct ":"
  return [l.as "label", colon, ← parts .statement]

/-- A function with a name, whose body an overload leaves out. -/
def functionDeclaration (named : Bool) : Reader Node := node "function_declaration" do
  let asynchronous ← attempt (keyword "async")
  let k ← keyword "function"
  let star ← attempt (punct "*")
  let n ← if named then some <$> identifier else attempt identifier
  let signature ← callSignature parts
  let body ← if ← tokenStarts "\x7b" then (do return [(← block parts).as "body"]) else endStatement false
  return asynchronous.toList ++ k :: star.toList ++ n.toList.map (·.as "name") ++ signature ++ body

def classDeclaration (named : Bool) : Reader Node := node "class_declaration" do
  let ds ← many (decorator parts)
  let a ← attempt (keyword "abstract")
  let k ← keyword "class"
  return ds ++ a.toList ++ k :: (← classRest parts named)

def typeAlias : Reader Node := node "type_alias_declaration" do
  let k ← keyword "type"
  let n ← name "type_identifier"
  let ts ← attempt (typeParameters parts)
  let eq ← punct "="
  let t ← parts .typeExpr
  return k :: n :: ts.toList ++ [eq, t] ++ (← endStatement false)

def interfaceDeclaration : Reader Node := node "interface_declaration" do
  let k ← keyword "interface"
  let n ← name "type_identifier"
  let ts ← attempt (typeParameters parts)
  let bases ← attempt (do let _ ← keyword "extends"; commas (parts .typeExpr))
  return k :: n :: ts.toList ++ bases.getD [] ++ [← objectType parts]

def enumDeclaration : Reader Node := node "enum_declaration" do
  let c ← attempt (keyword "const")
  let k ← keyword "enum"
  let n ← identifier
  let start ← punct "\x7b"
  let ms ← commas do
    let n ← propertyName parts
    match ← attempt (initializer parts) with
    | some v => grow "enum_assignment" n [v]
    | none => return n
  return c.toList ++ k :: n :: start :: ms ++ [← punct "\x7d"]

def namespaceDeclaration : Reader Node := node "internal_module" do
  let k ← keyword "namespace" <|> keyword "module"
  let n ← string <|> identifier
  let ns ← many (do let _ ← punctNot "." ['.']; identifier)
  let body ← if ← tokenStarts "\x7b" then (do return [← block parts]) else endStatement false
  return k :: n :: ns ++ body

def ambientDeclaration : Reader Node := node "ambient_declaration" do
  let k ← keyword "declare"
  let body : Reader (List Node) :=
    (do let g ← keyword "global"; return [g, ← block parts])
    <|> (do return [← parts .statement])
  return k :: (← body)

def wordThenName (w : String) : Reader Bool := ahead do
  let _ ← keyword w
  guardThat (!(← onNewLine))
  word

def declaration (w : String) : Reader Node := do
  match w with
  | "const" =>
    if ← ahead (do let _ ← keyword "const"; keyword "enum") then enumDeclaration parts
    else lexicalDeclaration parts
  | "let" | "var" => lexicalDeclaration parts
  | "function" => functionDeclaration parts true
  | "async" =>
    guardThat (← ahead (do
      let _ ← keyword "async"
      guardThat (!(← onNewLine))
      keyword "function"))
    functionDeclaration parts true
  | "class" => classDeclaration parts true
  | "abstract" =>
    guardThat (← ahead (do let _ ← keyword "abstract"; keyword "class"))
    classDeclaration parts true
  | "enum" => enumDeclaration parts
  | "type" => do guardThat (← wordThenName "type"); typeAlias parts
  | "interface" => interfaceDeclaration parts
  | "namespace" => do guardThat (← wordThenName "namespace"); namespaceDeclaration parts
  | "module" =>
    guardThat (← ahead (do
      let _ ← keyword "module"
      guardThat (!(← onNewLine))
      let _ ← string <|> identifier))
    namespaceDeclaration parts
  | "declare" => do guardThat (← wordThenName "declare"); ambientDeclaration parts
  | _ => failure

def startsDeclaration (w : String) : Reader Bool := do
  match w with
  | "const" | "var" | "enum" | "interface" | "abstract" => return true
  | "let" => return ["", "in", "instanceof"].all (· != (← afterWord)) || (← bracketAfter)
  | "function" => ahead do
    let _ ← keyword "function"
    let _ ← accept "*"
    word
  | "async" => ahead do
    let _ ← keyword "async"
    guardThat (!(← onNewLine))
    keyword "function"
  | "class" => wordThenAny "class"
  | "type" | "namespace" | "declare" => wordThenName w
  | "module" => ahead do
    let _ ← keyword "module"
    guardThat (!(← onNewLine))
    string <|> identifier
  | _ => return false
where
  /-- The name after the word. -/
  afterWord : Reader String := do
    let i ← get
    let _ ← word
    let a ← nextWord
    set i
    return a
  /-- Whether a bracket follows the word. -/
  bracketAfter : Reader Bool := do
    let i ← get
    let _ ← word
    let c ← tokenChar 0
    set i
    return c == some '[' || c == some '\x7b'
  /-- Whether a name follows the word, on any line. -/
  wordThenAny (w : String) : Reader Bool := ahead (do let _ ← keyword w; word)

end MarkupCensus.Grammar
