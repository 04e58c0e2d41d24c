import MarkupCensus.Grammar.Type

namespace MarkupCensus.Grammar

open Reader

variable (parts : Parts)

def isMarkupLetter (c : Char) : Bool := c.isAlpha || c == '_' || c == '$'

def isMarkupChar (c : Char) : Bool := isMarkupLetter c || c.isDigit || c == '-'

def hyphenated : Reader Unit := do
  let _ ← satisfy isMarkupLetter
  skipWhile fun c => isMarkupLetter c || c.isDigit
  exactly "-"
  skipWhile isMarkupChar

def markupName (kind : String) : Reader Node := leaf kind (hyphenated <|> nameChars)

def namespaced (kind : String) : Reader Node := node "jsx_namespace_name" do
  let space ← markupName kind
  let colon ← punct ":"
  return [space, colon, ← markupName kind]

def memberName : Reader Node := do
  let first ← identifier
  let rest ← many do
    let dot ← punct "."
    let p ← name "property_identifier"
    return (dot, p, ← offset)
  guardThat (!rest.isEmpty)
  return rest.foldl (fun object (dot, property, stop) =>
    { kind := "member_expression", start := object.start, stop := stop,
      children := [object.as "object", dot, property.as "property"] }) first

def tagName : Reader Node := do
  return (← memberName <|> namespaced "identifier" <|> markupName "identifier").as "name"

def charReference : Reader Unit := do
  exactly "&"
  match ← peek with
  | some '#' =>
    advance 1
    if (← peek).any fun c => c == 'x' || c == 'X' then
      advance 1
      hexDigits 1 6
    else
      let i ← get
      skipWhile Char.isDigit
      let j ← get
      guardThat (1 ≤ j - i && j - i ≤ 5)
  | _ =>
    let i ← get
    skipWhile Char.isAlpha
    let j ← get
    guardThat (1 ≤ j - i && j - i ≤ 30)
  exactly ";"

/-- The inside of an attribute string. An ampersand before a letter or a number sign has to start a
character reference; any other character after an ampersand is text, even a quote. -/
def attributeChars (quote : Char) : Nat → Reader Unit
  | 0 => return
  | fuel + 1 => do
    match ← peek with
    | none => failure
    | some c =>
      if c == quote then return
      else
        if c == '&' then
          if (← peekAt 1).any fun d => d == '#' || d.isAlpha then charReference else advance 2
        else advance 1
        attributeChars quote fuel

def attributeString : Reader Node := leaf "string" do
  let q ← satisfy fun c => c == '"' || c == '\''
  attributeChars q ((← read).chars.size + 1)
  advance 1

def spreadElement : Reader Node := node "spread_element" do
  let dots ← punct "..."
  return [dots, ← parts (.expression false)]

def braced : Reader Node := node "jsx_expression" do
  let start ← punct "\x7b"
  let inside ← attempt (spreadElement parts <|> parts .sequence)
  return start :: inside.toList ++ [← punct "\x7d"]

def namedAttribute : Reader Node := node "jsx_attribute" do
  let n ← namespaced "property_identifier" <|> markupName "property_identifier"
  match ← attempt (punct "=") with
  | none => return [n]
  | some eq =>
    let v ← attributeString <|> braced parts <|> parts .element
    return [n, eq, v]

def attributes : Reader (List Node) := many do
  return (← braced parts <|> namedAttribute parts).as "attribute"

def markupText : Reader Node := do
  let start ← offset
  let i ← get
  skipWhile fun c => !("<>&\x7b\x7d".toList.contains c)
  if (← peek) == some '&' then charReference
  guardThat (i < (← get))
  return { kind := "jsx_text", start := start, stop := ← offset }

/-- A comment in the style of markup, which runs to the end of its line. -/
def markedComment : Reader Node := leaf "html_comment" do
  guardThat ((← read).hasAt (← get) "<!--".toList)
  skipMarked

def content : Reader (List Node) := many <|
  markupText <|> markedComment <|> (do guardThat ((← peek) == some '\x7b'); braced parts)
    <|> (do guardThat ((← peekAt 1) != some '/'); parts .element)

def closingTag : Reader Node := node "jsx_closing_element" do
  let start ← punct "</"
  let n ← attempt tagName
  return start :: n.toList ++ [← punct ">"]

/-- An element: a tag that closes itself, or an opening tag, content and a closing tag. -/
def element : Reader Node := do
  let tag ← node "jsx_opening_element" do
    let start ← punctNot "<" ['/', '<']
    if ← tokenStarts ">" then return [start, ← punct ">"]
    else
      let n ← tagName
      let ts ← attempt (typeArguments parts)
      let as ← attributes parts
      let stop ← punct "/>" <|> punct ">"
      return start :: n :: ts.toList ++ as ++ [stop]
  if tag.children.any (·.kind == "/>") then return tag.kinded "jsx_self_closing_element"
  else
    let inside ← content parts
    let close ← closingTag
    grow "jsx_element" (tag.as "open_tag") (inside ++ [close.as "close_tag"])

end MarkupCensus.Grammar
