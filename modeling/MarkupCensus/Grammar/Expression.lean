import MarkupCensus.Grammar.Class
import MarkupCensus.Grammar.Markup

namespace MarkupCensus.Grammar

open Reader

variable (parts : Parts)

/-- The levels of binary operators; those of a higher level bind more tightly. -/
def operatorLevel? : String → Option Nat
  | "??" => some 1
  | "||" => some 2
  | "&&" => some 3
  | "|" => some 4
  | "^" => some 5
  | "&" => some 6
  | "==" | "!=" | "===" | "!==" => some 7
  | "<" | ">" | "<=" | ">=" | "in" | "instanceof" => some 8
  | "<<" | ">>" | ">>>" => some 9
  | "+" | "-" => some 10
  | "*" | "/" | "%" => some 11
  | "**" => some 12
  | _ => none

def ascriptionLevel : Nat := 8

def assignmentOperators : List String :=
  ["+=", "-=", "*=", "/=", "%=", "^=", "&=", "|=", ">>=", ">>>=", "<<=", "**=", "&&=", "||=", "??="]

def spreadOr (p : Reader Node) : Reader Node := spreadElement parts <|> p

def arguments : Reader Node := node "arguments" do
  let start ← punct "("
  let as ← sparse (spreadOr parts (parts (.expression false)))
  return start :: as ++ [← punct ")"]

def templateString : Reader Node := template "template_string" (parts .sequence)

def array : Reader Node := node "array" do
  let start ← punct "["
  let es ← sparse (spreadOr parts (parts (.expression false)))
  return start :: es ++ [← punct "]"]

def objectMember : Reader Node :=
  spreadElement parts
  <|> method parts true ["async", "get", "set", "static", "readonly", "public", "private",
    "protected"]
  <|> (node "pair" do
    let key ← propertyName parts
    let colon ← punct ":"
    return [key.as "key", colon, (← parts (.expression false)).as "value"])
  <|> name "shorthand_property_identifier"

def object : Reader Node := node "object" do
  let start ← punct "\x7b"
  let ms ← sparse (objectMember parts)
  return start :: ms ++ [← punct "\x7d"]

/-- The left side of an assignment that takes a value apart, with defaults that an object or an array
does not have. -/
def destructuring : Reader Node := do
  let p ← arrayPattern parts <|> objectPattern parts
  guardThat ((← nextOperator) == "=")
  return p

def arrowHead (plain : Bool) : Reader (List Node) := do
  let single : Reader (List Node) := do
    let p ← freeIdentifier
    return [p.as "parameter", ← punct "=>"]
  let signature : Reader (List Node) := do
    let ts ← attempt (typeParameters parts)
    let ps ← parts .parameters
    let r ← if plain then pure none else attempt (statedReturn parts)
    return ts.toList ++ [ps.as "parameters"] ++ r.toList ++ [← punct "=>"]
  let asynchronous : Reader (List Node) := do
    let k ← keyword "async"
    guardThat (!(← onNewLine))
    return k :: (← single <|> signature)
  match ← tokenChar 0 with
  | none => failure
  | some c =>
    if c == '(' || c == '<' then signature
    else if (← nextWord) == "async" then asynchronous <|> single
    else single

def arrowBody (plain : Bool) : Reader Node := do
  let body ← if ← tokenStarts "\x7b" then parts .block else parts (.expression plain)
  return body.as "body"

def parenthesized : Reader Node := node "parenthesized_expression" do
  let start ← punct "("
  let e ← parts .sequence
  let t ← attempt (statedType parts)
  return start :: e :: t.toList ++ [← punct ")"]

def memberLink (left : Node) : Reader Node :=
  (do let dot ← punctNot "." ['.']
      let p ← privateName <|> name "property_identifier"
      grow "member_expression" (left.as "object") [dot, p.as "property"])
  <|> (do let start ← punct "["
          let i ← parts .sequence
          let stop ← punct "]"
          grow "subscript_expression" (left.as "object") [start, i.as "index", stop])

def optionalMember (left : Node) : Reader Node := do
  guardThat ((← nextOperator) == "?.")
  let mark ← punct "?."
  let mark := { mark.kinded "optional_chain" with named := true }.as "optional_chain"
  (do let start ← punct "["
      let i ← parts .sequence
      let stop ← punct "]"
      grow "subscript_expression" (left.as "object") [mark, start, i.as "index", stop])
  <|> (do let p ← privateName <|> name "property_identifier"
          grow "member_expression" (left.as "object") [mark, p.as "property"])

def optionalCall (left : Node) : Reader Node := do
  guardThat ((← nextOperator) == "?.")
  let mark ← punct "?."
  let ts ← attempt (typeArguments parts)
  let as ← arguments parts
  grow "call_expression" (left.as "function") (mark :: ts.toList ++ [as.as "arguments"])

def endsExpression : Reader Bool := do
  if ← onNewLine then return true
  match ← tokenChar 0 with
  | none => return true
  | some c => return ")]\x7d,;:.?=&|".toList.contains c

/-- Type arguments after an expression: those of a call, or of an expression on its own. -/
def typeApplication (left : Node) : Reader Node := do
  let ts ← typeArguments parts
  (do let as ← arguments parts
      grow "call_expression" (left.as "function") [ts, as.as "arguments"])
  <|> (do guardThat (← tokenStarts "`")
          let t ← templateString parts
          grow "call_expression" (left.as "function") [ts, t.as "arguments"])
  <|> (do guardThat (← endsExpression)
          grow "instantiation_expression" left [ts])

def call (left : Node) : Reader Node :=
  (do let as ← arguments parts
      grow "call_expression" (left.as "function") [as.as "arguments"])
  <|> (do guardThat (← tokenStarts "`")
          let t ← templateString parts
          grow "call_expression" (left.as "function") [t.as "arguments"])

def nonNull (left : Node) : Reader Node := do
  guardThat (!(← onNewLine))
  let mark ← punctNot "!" ['=']
  grow "non_null_expression" left [mark]

def links (link : Node → Reader Node) : Nat → Node → Reader Node
  | 0, left => return left
  | fuel + 1, left => do
    match ← attempt (link left) with
    | some n => links link fuel n
    | none => return left

def chain (link : Node → Reader Node) (left : Node) : Reader Node := do
  links link ((← read).chars.size + 1 - (← get)) left

def anyLink (left : Node) : Reader Node :=
  memberLink parts left <|> optionalMember parts left <|> optionalCall parts left
    <|> call parts left <|> nonNull left <|> typeApplication parts left

def constructorLink (left : Node) : Reader Node :=
  memberLink parts left <|> optionalMember parts left <|> nonNull left

def wordExpressions : List String := ["this", "super", "null", "true", "false", "undefined"]

def importExpression : Reader Node := do
  let k ← keyword "import"
  let meta_ : Reader Node := do
    let dot ← punctNot "." ['.']
    let p ← keyword "meta"
    grow "meta_property" k [dot, p]
  meta_ <|> do
    let as ← arguments parts
    grow "call_expression" ({ k with named := true }.as "function") [as.as "arguments"]

def askedName : Reader Node := do
  let n ← privateName
  guardThat ((← nextWord) == "in")
  return n

def primary : Reader Node := do
  match ← tokenChar 0 with
  | none => failure
  | some c =>
    if c == '(' then parenthesized parts
    else if c == '[' then array parts
    else if c == '\x7b' then object parts
    else if c == '"' || c == '\'' then string
    else if c == '`' then templateString parts
    else if c == '/' then regex
    else if c == '<' then parts .element
    else if c == '#' then askedName
    else if c == '@' then classExpression parts
    else if c.isDigit || c == '.' then number
    else
      let w ← nextWord
      if wordExpressions.contains w then name w
      else if w == "function" then functionExpression parts
      else if w == "class" then classExpression parts
      else if w == "import" then importExpression parts
      else if w == "async" then functionExpression parts <|> identifier
      else freeIdentifier

def startsNoChain : Reader Bool := do
  match ← tokenChar 0 with
  | none => return true
  | some c => return ")]\x7d,;:=+-*%&|^?!>~".toList.contains c

def newExpression : Nat → Reader Node
  | 0 => failure
  | fuel + 1 => do
    let k ← keyword "new"
    let target : Reader Node := do
      let dot ← punctNot "." ['.']
      let p ← keyword "target"
      grow "meta_property" k [dot, p]
    target <|> do
      let c ← if (← nextWord) == "new" then newExpression fuel else primary parts
      let c ← chain (constructorLink parts) c
      let ts ← attempt (typeArguments parts)
      let as ← attempt (arguments parts)
      grow "new_expression" k (c.as "constructor" :: ts.toList ++ (as.map (·.as "arguments")).toList)

def chained : Reader Node := do
  let first ←
    if (← nextWord) == "new" then
      newExpression parts ((← read).chars.size + 1)
        <|> (do let n ← identifier; guardThat (← startsNoChain); return n)
    else primary parts
  chain (anyLink parts) first

/-- An assignment, if the left side that has been read is followed by one. -/
def assigned (plain : Bool) (left : Node) : Reader Node := do
  let op ← nextOperator
  if op == "=" then
    let eq ← punct "="
    let right ← parts (.expression plain)
    grow "assignment_expression" (left.as "left") [eq, right.as "right"]
  else if assignmentOperators.contains op then
    let eq ← punct op
    let right ← parts (.expression plain)
    grow "augmented_assignment_expression" (left.as "left") [eq.as "operator", right.as "right"]
  else if (op == "++" || op == "--") && !(← onNewLine) then
    let mark ← punct op
    grow "update_expression" (left.as "argument") [mark.as "operator"]
  else return left

def unary (plain : Bool) : Reader Node := do
  let op ← nextOperator
  if op == "++" || op == "--" then
    node "update_expression" do
      let mark ← punct op
      return [mark.as "operator", (← parts (.operand plain)).as "argument"]
  else if op == "!" || op == "-" || op == "+" || op == "~" then
    node "unary_expression" do
      let mark ← punct op
      return [mark.as "operator", (← parts (.operand plain)).as "argument"]
  else
    let w ← nextWord
    if w == "typeof" || w == "void" || w == "delete" then
      node "unary_expression" do
        let k ← keyword w
        return [k.as "operator", (← parts (.operand plain)).as "argument"]
    else if w == "await" then
      node "await_expression" do
        let k ← keyword w
        return [k, ← parts (.operand plain)]
    else if w == "yield" then
      node "yield_expression" do
        let k ← keyword w
        let star ← attempt (punct "*")
        let e ←
          if star.isSome then (do return some (← parts (.expression plain)))
          else if ← onNewLine then pure none
          else attempt (parts (.expression plain))
        return k :: star.toList ++ e.toList
    else failure

/-- An operand of a binary operator. Arrow functions and assignments need no parentheses there. -/
def operand (plain : Bool) : Reader Node := do
  match ← attempt (arrowHead parts plain) with
  | some (first :: rest) =>
    let body ← arrowBody parts plain
    let f ← grow "arrow_function" first (rest ++ [body])
    if body.kind == "statement_block" then chain (anyLink parts) f else return f
  | _ =>
    match ← attempt (unary parts plain) with
    | some e => return e
    | none =>
      match ← attempt (chained parts) with
      | some e => assigned parts plain e
      | none => assigned parts plain (← destructuring parts)

/-- The word or sign of the binary operator that comes next, with its level. -/
def nextBinary : Reader (Option (String × Nat)) := do
  let op ← nextOperator
  let op ← if op == "" then nextWord else pure op
  return (operatorLevel? op).map fun l => (op, l)

def ascription (left : Node) : Reader Node := do
  guardThat (!(← onNewLine))
  let w ← nextWord
  guardThat (w == "as" || w == "satisfies")
  let k ← keyword w
  let t ← (do let t ← keyword "const"; guardThat (!(← tokenStarts ".")); return t) <|> parts .typeExpr
  grow (if w == "as" then "as_expression" else "satisfies_expression") left [k, t]

def joined (level : Nat) (plain : Bool) : Nat → Node → Reader Node
  | 0, left => return left
  | fuel + 1, left => do
    match ← nextBinary with
    | some (op, l) =>
      if level ≤ l then
        let mark ← if op == "in" || op == "instanceof" then keyword op else punct op
        let right ← parts (.binary (if op == "**" then l else l + 1) plain)
        let e ← grow "binary_expression" (left.as "left") [mark.as "operator", right.as "right"]
        joined level plain fuel e
      else return left
    | none =>
      if level ≤ ascriptionLevel then
        match ← attempt (ascription parts left) with
        | some e => joined level plain fuel e
        | none => return left
      else return left

def binary (level : Nat) (plain : Bool) : Reader Node := do
  let left ← parts (.operand plain)
  joined parts level plain ((← read).chars.size + 1 - (← get)) left

def expression (plain : Bool) : Reader Node := do
  let condition ← parts (.binary 0 plain)
  if (← nextOperator) == "?" then
    let mark ← punct "?"
    let branches (first : Bool) : Reader (List Node) := do
      let yes ← parts (.expression first)
      let colon ← punct ":"
      let no ← parts (.expression plain)
      return [yes.as "consequence", colon, no.as "alternative"]
    let rest ← branches false <|> (do guardThat (← tokenStarts "("); branches true)
    grow "ternary_expression" (condition.as "condition") (mark :: rest)
  else return condition

def sequence : Reader Node := do
  let first ← parts (.expression false)
  let rest ← many do
    let comma ← punct ","
    return [comma, ← parts (.expression false)]
  if rest.isEmpty then return first else grow "sequence_expression" first rest.flatten

end MarkupCensus.Grammar
