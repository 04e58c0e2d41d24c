import MarkupCensus.Grammar.Reader
import MarkupCensus.Text.Digit

namespace MarkupCensus.Grammar

open Reader

def isSign (c : Char) : Bool :=
  ":;`\"'@#.,|^&<=>+-*/\\%?!~()[]\x7b\x7d".toList.contains c

def isNameChar (c : Char) : Bool := !(c.toNat < 0x20 || isSpace c || isSign c)

def isHexDigit (c : Char) : Bool := (Digit.hexValue? c).isSome

def hexDigits (least most : Nat) : Reader Unit := do
  let i ← get
  skipWhile isHexDigit
  let j ← get
  guardThat (least ≤ j - i && j - i ≤ most)

def nameEscape : Reader Unit := do
  exactly "\\u"
  if (← peek) == some '\x7b' then
    advance 1
    hexDigits 1 1000000
    exactly "\x7d"
  else
    for _ in [0:4] do
      let _ ← satisfy isHexDigit

def nameRest : Reader Unit := do
  let _ ← many (nameEscape <|> (do let _ ← satisfy isNameChar; return))

def nameChars : Reader Unit := do
  nameEscape <|> (do let _ ← satisfy fun c => isNameChar c && !c.isDigit; return)
  nameRest

def word : Reader String := do
  skip
  let i ← get
  nameChars
  let j ← get
  return String.ofList ((← read).chars.extract i j).toList

def nextWord : Reader String := do
  let i ← get
  let w ← attempt word
  set i
  return w.getD ""

def keyword (s : String) : Reader Node := do
  guardThat ((← nextWord) == s)
  return { ← leaf s nameChars with named := false }

def acceptWord (s : String) : Reader Bool :=
  (do let _ ← keyword s; return true) <|> return false

def name (kind : String) : Reader Node := leaf kind nameChars

/-- Words that start an expression of their own and so name nothing in one. -/
def reservedWords : List String :=
  ["function", "class", "new", "await", "yield", "typeof", "void", "delete", "this", "super", "null",
   "true", "false", "undefined", "import"]

def identifier : Reader Node := name "identifier"

def freeIdentifier : Reader Node := do
  guardThat (!reservedWords.contains (← nextWord))
  identifier

def privateName : Reader Node := leaf "private_property_identifier" do
  exactly "#"
  nameChars

/-- The index after digits between which single low lines may stand, if there are any. -/
def digitsEnd (inp : Input) (test : Char → Bool) : Nat → Nat → Nat
  | 0, i => i
  | fuel + 1, i =>
    match inp.chars[i]?, inp.chars[i + 1]? with
    | some c, d =>
      if test c then digitsEnd inp test fuel (i + 1)
      else if c == '_' && d.any test then digitsEnd inp test fuel (i + 2)
      else i
    | none, _ => i

def digitRun (inp : Input) (test : Char → Bool) (i : Nat) : Nat :=
  if (inp.chars[i]?).any test then digitsEnd inp test (inp.chars.size + 1) i else i

def isBinaryDigit (c : Char) : Bool := c == '0' || c == '1'

def isOctalDigit (c : Char) : Bool := '0' ≤ c && c ≤ '7'

/-- The index after an exponent, or the same index if there is none. -/
def exponentEnd (inp : Input) (i : Nat) : Nat :=
  if (inp.chars[i]?).any fun c => c == 'e' || c == 'E' then
    let j := if (inp.chars[i + 1]?).any fun c => c == '-' || c == '+' then i + 2 else i + 1
    let k := digitRun inp Char.isDigit j
    if j < k then k else i
  else i

def markedEnd (inp : Input) (i : Nat) (marks : List Char) (test : Char → Bool) : Nat :=
  if inp.chars[i]? == some '0' && (inp.chars[i + 1]?).any marks.contains then
    let k := digitRun inp test (i + 2)
    if i + 2 < k then if inp.chars[k]? == some 'n' then k + 1 else k else i
  else i

/-- The index after a decimal numeral. Zeros before the other digits rule out a fraction. -/
def decimalEnd (inp : Input) (i : Nat) : Nat :=
  let d := digitRun inp Char.isDigit i
  if d == i then
    if inp.chars[i]? == some '.' then
      let k := digitRun inp Char.isDigit (i + 1)
      if i + 1 < k then exponentEnd inp k else i
    else i
  else
    let plain := inp.chars[i]? != some '0' || d == i + 1
      || (inp.chars[i + 1]?).any fun c => '1' ≤ c && c ≤ '9'
    let whole := if inp.chars[d]? == some 'n' then d + 1 else d
    if plain && inp.chars[d]? == some '.' then exponentEnd inp (digitRun inp Char.isDigit (d + 1))
    else if plain then max whole (exponentEnd inp d)
    else whole

def number : Reader Node := leaf "number" do
  let inp ← read
  let i ← get
  let j := [markedEnd inp i ['x', 'X'] isHexDigit, markedEnd inp i ['o', 'O'] isOctalDigit,
    markedEnd inp i ['b', 'B'] isBinaryDigit].foldl max (decimalEnd inp i)
  guardThat (i < j)
  set j

def escapeSequence : Reader Node := leaf "escape_sequence" do
  exactly "\\"
  match ← peek with
  | none => failure
  | some 'x' =>
    advance 1
    let _ ← satisfy isHexDigit
    let _ ← satisfy isHexDigit
  | some 'u' =>
    advance 1
    if (← peek) == some '\x7b' then
      advance 1
      hexDigits 1 1000000
      exactly "\x7d"
    else
      for _ in [0:4] do
        let _ ← satisfy isHexDigit
  | some c =>
    if isOctalDigit c then
      advance 1
      for _ in [0:2] do
        if (← peek).any isOctalDigit then advance 1
    else if c == '\r' && (← peekAt 1) == some '\n' then advance 2
    else advance 1

def stringFragment (quote : Char) : Reader Node := do
  let start ← offset
  let i ← get
  skipWhile fun c => c != quote && c != '\\' && c != '\n' && c != '\r'
  guardThat (i < (← get))
  return { kind := "string_fragment", start := start, stop := ← offset }

def string : Reader Node := node "string" do
  match ← peek with
  | some c =>
    if c == '"' || c == '\'' then
      let q := String.ofList [c]
      let start ← punct q
      let parts ← many ((do guardThat ((← peek) == some '\\'); escapeSequence) <|> stringFragment c)
      guardThat ((← peek) == some c)
      return start :: parts ++ [← punct q]
    else failure
  | none => failure

def regexBody : Nat → Bool → Reader Unit
  | 0, _ => failure
  | fuel + 1, inSet => do
    match ← peek with
    | none => failure
    | some c =>
      if c == '\n' then failure
      else if c == '\\' then
        guardThat ((← peekAt 1).any (· != '\n'))
        advance 2
        regexBody fuel inSet
      else if c == '/' && !inSet then return
      else
        advance 1
        regexBody fuel (if inSet then c != ']' else c == '[')

def regex : Reader Node := leaf "regex" do
  exactly "/"
  guardThat ((← peek).all fun c => c != '*' && c != '/')
  regexBody ((← read).chars.size + 1) false
  exactly "/"
  skipWhile Char.isLower

def operators : List String :=
  [">>>=", "...", "===", "!==", "**=", "<<=", ">>=", ">>>", "&&=", "||=", "??=", "=>", "==", "!=",
   "<=", ">=", "&&", "||", "??", "?.", "++", "--", "+=", "-=", "*=", "/=", "%=", "&=", "|=", "^=",
   "<<", ">>", "**", "=", "<", ">", "+", "-", "*", "/", "%", "&", "|", "^", "!", "~", "?", ":", ".",
   ",", ";"]

/-- The operator that comes next. A question mark before a fraction stands alone. -/
def nextOperator : Reader String := do
  let (i, _) ← tokenStart
  let inp ← read
  match operators.find? fun s => inp.hasAt i s.toList with
  | some "?." => return if (inp.chars[i + 2]?).any Char.isDigit then "?" else "?."
  | some s => return s
  | none => return ""

/-- Whether a new statement may start on the next line without a semicolon before it. -/
def startsStatement (afterExpression : Bool) : Reader Bool := do
  match ← tokenChar 0 with
  | none => return true
  | some c =>
    if "`,.;*%><=?^|&/:".toList.contains c then return false
    else if c == '(' || c == '[' then return !afterExpression
    else if c == '+' || c == '-' then return (← tokenChar 1) == some c
    else if c == '!' then return (← tokenChar 1) != some '='
    else
      let w ← nextWord
      return w != "in" && w != "instanceof"

/-- The end of a statement: a semicolon, the end of the block or of the text, or a line feed where a
new statement may start. -/
def endStatement (afterExpression : Bool) : Reader (List Node) := do
  if ← tokenStarts ";" then return [← punct ";"]
  else
    let (_, crossed) ← tokenStart
    match ← tokenChar 0 with
    | none => return []
    | some c =>
      if c == '\x7d' then return []
      else if crossed then
        guardThat (← startsStatement afterExpression)
        return []
      else failure

end MarkupCensus.Grammar
