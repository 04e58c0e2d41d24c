import MarkupCensus.Grammar.Statement

namespace MarkupCensus.Grammar

open Reader

variable (parts : Parts)

def importAttributes : Reader Node := node "import_attribute" do
  let k ← keyword "with" <|> keyword "assert"
  return [k, ← object parts]

def fromClause : Reader (List Node) := do
  let k ← keyword "from"
  let s ← string
  return [k, s.as "source"]

def exportName : Reader Node := identifier <|> string

def importSpecifier : Reader Node := node "import_specifier" do
  let plain : Reader (List Node) :=
    (do let n ← exportName
        let k ← keyword "as"
        return [n.as "name", k, (← identifier).as "alias"])
    <|> (do return [(← identifier).as "name"])
  let ended : Reader (List Node) := do
    let ns ← plain
    guardThat ((← tokenStarts ",") || (← tokenStarts "\x7d"))
    return ns
  ended <|> do
    let k ← keyword "type" <|> keyword "typeof"
    return k :: (← ended)

def namedImports : Reader Node := node "named_imports" do
  let start ← punct "\x7b"
  let ns ← commas importSpecifier
  return start :: ns ++ [← punct "\x7d"]

def namespaceImport : Reader Node := node "namespace_import" do
  let star ← punct "*"
  let k ← keyword "as"
  return [star, k, ← identifier]

def importClause : Reader Node := node "import_clause" do
  let several := namespaceImport <|> namedImports
  (do return [← several])
  <|> do
    let n ← identifier
    if ← tokenStarts "," then
      let comma ← punct ","
      return [n, comma, ← several]
    else return [n]

def importRequire : Reader Node := node "import_require_clause" do
  let n ← identifier
  let eq ← punct "="
  let k ← keyword "require"
  let start ← punct "("
  let s ← string
  return [n, eq, k, start, s.as "source", ← punct ")"]

def importStatement : Reader Node := node "import_statement" do
  let k ← keyword "import"
  let fromModule : Reader (List Node) := do
    let c ← importClause
    return c :: (← fromClause)
  let bare : Reader (List Node) := do return [(← string).as "source"]
  let typed : Reader (List Node) := do
    let t ← keyword "type" <|> keyword "typeof"
    return t :: (← fromModule <|> (do return [← importRequire]))
  let body ← fromModule <|> typed <|> (do return [← importRequire]) <|> bare
  let attributes ← attempt (importAttributes parts)
  return k :: body ++ attributes.toList ++ (← endStatement false)

def importAlias : Reader Node := node "import_alias" do
  let k ← keyword "import"
  let _ ← attempt (do let t ← keyword "type"; guardThat (!(← tokenStarts "=")); return t)
  let n ← identifier
  let eq ← punct "="
  let path ← identifier
  let rest ← many (do let _ ← punctNot "." ['.']; identifier)
  return k :: n :: eq :: path :: rest ++ (← endStatement false)

def exportSpecifier : Reader Node := node "export_specifier" do
  let plain : Reader (List Node) :=
    (do let n ← exportName
        let k ← keyword "as"
        return [n.as "name", k, (← exportName).as "alias"])
    <|> (do return [(← exportName).as "name"])
  let ended : Reader (List Node) := do
    let ns ← plain
    guardThat ((← tokenStarts ",") || (← tokenStarts "\x7d"))
    return ns
  ended <|> do
    let k ← keyword "type" <|> keyword "typeof"
    return k :: (← ended)

def exportClause : Reader Node := node "export_clause" do
  let start ← punct "\x7b"
  let ns ← commas exportSpecifier
  return start :: ns ++ [← punct "\x7d"]

def exportDefault : Reader (List Node) := do
  let k ← keyword "default"
  let w ← nextWord
  let value : Reader (List Node) := do
    let e ← parts (.expression false)
    return e :: (← endStatement true)
  let body : Reader (List Node) := do
    if w == "function" then return [← functionDeclaration parts false]
    else if w == "async" && (← startsDeclaration "async" <||> ahead asyncFunction) then
      return [← functionDeclaration parts false]
    else if w == "class" || (← tokenStarts "@") then return [← classDeclaration parts false]
    else if w == "abstract" && (← ahead (do let _ ← keyword "abstract"; keyword "class")) then
      return [← classDeclaration parts false]
    else if w != "" && (← startsDeclaration w) then return [← declaration parts w]
    else value
  return k :: (← body)
where
  /-- A function keyword on the line of the word before it. -/
  asyncFunction : Reader Node := do
    let _ ← keyword "async"
    guardThat (!(← onNewLine))
    keyword "function"

def exportStatement : Reader Node := node "export_statement" do
  let ds ← many (decorator parts)
  let k ← keyword "export"
  let ending (ns : List Node) : Reader (List Node) := do
    let attributes ← attempt (importAttributes parts)
    return ns ++ attributes.toList ++ (← endStatement false)
  let star : Reader (List Node) := do
    let _ ← acceptWord "type"
    let s ← punct "*"
    let n ← attempt (do let _ ← keyword "as"; exportName)
    ending (s :: n.toList ++ (← fromClause))
  let clause : Reader (List Node) := do
    let _ ← acceptWord "type"
    let c ← exportClause
    let f ← attempt fromClause
    ending (c :: f.getD [])
  let assigned : Reader (List Node) := do
    let eq ← punct "="
    let e ← parts (.expression false)
    return eq :: e :: (← endStatement true)
  let asNamespace : Reader (List Node) := do
    let a ← keyword "as"
    let n ← keyword "namespace"
    return a :: n :: (← identifier) :: (← endStatement false)
  let body : Reader (List Node) := do
    let w ← nextWord
    if w == "default" then exportDefault parts
    else if w == "import" then
      return [← importAlias <|> importStatement parts]
    else if ← startsDeclaration w then return [← declaration parts w]
    else if ← tokenStarts "@" then return [← classDeclaration parts true]
    else star <|> clause <|> assigned <|> asNamespace
  return ds ++ k :: (← body)

def statementOf? (w : String) : Option (Reader Node) :=
  match w with
  | "if" => some (ifStatement parts)
  | "for" => some (forStatement parts)
  | "while" => some (whileStatement parts)
  | "do" => some (doStatement parts)
  | "switch" => some (switchStatement parts)
  | "try" => some (tryStatement parts)
  | "with" => some (withStatement parts)
  | "break" => some (jumpStatement "break")
  | "continue" => some (jumpStatement "continue")
  | "debugger" => some (jumpStatement "debugger")
  | "return" => some (valueStatement parts "return" true)
  | "throw" => some (valueStatement parts "throw" false)
  | "export" => some (exportStatement parts)
  | _ => none

def statement : Reader Node := do
  if ← tokenStarts ";" then leaf "empty_statement" (exactly ";")
  else if ← tokenStarts "\x7b" then
    block parts <|> do
      guardThat (← ahead (do
        let _ ← punct "\x7b"
        let _ ← identifier <|> string <|> number
        punct ":"))
      expressionStatement parts
  else if ← tokenStarts "@" then
    if ← ahead (do let _ ← many (decorator parts); keyword "export") then exportStatement parts
    else classDeclaration parts true
  else
    let w ← nextWord
    if w == "" then expressionStatement parts
    else if ← ahead (do let _ ← word; let _ ← punct ":") then labeledStatement parts
    else match statementOf? parts w with
      | some p => p
      | none =>
        if ← startsDeclaration w then declaration parts w
        else if w == "import" && !(← ahead (do
            let _ ← keyword "import"
            let _ ← punct "(" <|> punct ".")) then
          importStatement parts <|> importAlias
        else expressionStatement parts

def step : Goal → Reader Node
  | .statement => statement parts
  | .block => block parts
  | .sequence => sequence parts
  | .expression plain => expression parts plain
  | .binary level plain => binary parts level plain
  | .operand plain => operand parts plain
  | .element => element parts
  | .binding => binding parts
  | .parameters => parameters parts
  | .typeExpr => typeExpr parts

end MarkupCensus.Grammar
