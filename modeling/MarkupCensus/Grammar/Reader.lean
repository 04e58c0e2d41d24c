import MarkupCensus.Tree.Node

namespace MarkupCensus.Grammar

/-- A source text, with the byte offset of each character and of the end. -/
structure Input where
  chars : Array Char
  offsets : Array Nat

namespace Input

/-- Appends the byte offsets of characters, the first of which is at the given one, and of the end. -/
def pushOffsets (offsets : Array Nat) (i : Nat) : List Char → Array Nat
  | [] => offsets.push i
  | c :: cs => pushOffsets (offsets.push i) (i + c.utf8Size) cs

def ofChars (cs : List Char) : Input where
  chars := cs.toArray
  offsets := pushOffsets #[] 0 cs

/-- The first index from `i` on whose character fails a test. -/
def skipWhile (inp : Input) (test : Char → Bool) (i : Nat) : Nat :=
  if h : i < inp.chars.size then
    if test inp.chars[i] then inp.skipWhile test (i + 1) else i
  else i
termination_by inp.chars.size - i

def hasAt (inp : Input) (i : Nat) : List Char → Bool
  | [] => true
  | c :: cs => inp.chars[i]? == some c && inp.hasAt (i + 1) cs

/-- The index after the end of a block comment whose inside is at `i`. -/
def blockCommentEnd? (inp : Input) (i : Nat) : Option Nat :=
  if i < inp.chars.size then
    if inp.hasAt i ['*', '/'] then some (i + 2) else inp.blockCommentEnd? (i + 1)
  else none
termination_by inp.chars.size - i

end Input

def isSpace (c : Char) : Bool :=
  let n := c.toNat
  n == 0x20 || (0x9 ≤ n && n ≤ 0xD) || n == 0xA0 || n == 0x1680 || (0x2000 ≤ n && n ≤ 0x200B)
    || n == 0x2028 || n == 0x2029 || n == 0x202F || n == 0x205F || n == 0x2060 || n == 0x3000
    || n == 0xFEFF

def endsLine (c : Char) : Bool :=
  c == '\n' || c == '\r' || c.toNat == 0x2028 || c.toNat == 0x2029

/-- Skips white space and comments. The second result tells whether a line feed outside comments was
among them. -/
def Input.skipTrivia (inp : Input) : Nat → Nat → Bool → Nat × Bool
  | 0, i, crossed => (i, crossed)
  | fuel + 1, i, crossed =>
    match inp.chars[i]? with
    | none => (i, crossed)
    | some c =>
      if isSpace c then inp.skipTrivia fuel (i + 1) (crossed || c == '\n')
      else if inp.hasAt i ['/', '/'] then
        inp.skipTrivia fuel (inp.skipWhile (fun d => !endsLine d) i) crossed
      else if inp.hasAt i ['/', '*'] then
        match inp.blockCommentEnd? (i + 2) with
        | some j => inp.skipTrivia fuel j crossed
        | none => (i, crossed)
      else (i, crossed)

/-- Skips comments in the style of markup, which run to the end of their line. -/
def Input.skipMarkedComments (inp : Input) : Nat → Nat → Nat
  | 0, i => i
  | fuel + 1, i =>
    let (start, _) := inp.skipTrivia (inp.chars.size + 1 - i) i false
    if inp.hasAt start ['<', '!', '-', '-'] || inp.hasAt start ['-', '-', '>'] then
      inp.skipMarkedComments fuel (inp.skipWhile (fun c => !endsMarked c) start)
    else i
where
  /-- Characters that end such a comment. -/
  endsMarked (c : Char) : Bool := c == '\n' || c.toNat == 0x2028 || c.toNat == 0x2029

/-- A reader takes part of the input from an index on, or fails and takes nothing. -/
abbrev Reader := ReaderT Input (StateT Nat Option)

namespace Reader

variable {α : Type}

def peekAt (k : Nat) : Reader (Option Char) := do
  let i ← get
  return (← read).chars[i + k]?

def peek : Reader (Option Char) := peekAt 0

def offset : Reader Nat := do
  let i ← get
  return (← read).offsets.getD i 0

def advance (k : Nat) : Reader Unit := modify (· + k)

def tokenStart : Reader (Nat × Bool) := do
  let inp ← read
  let i ← get
  return inp.skipTrivia (inp.chars.size + 1 - i) i false

def skip : Reader Unit := do
  let (i, _) ← tokenStart
  set i

def skipMarked : Reader Unit := do
  let inp ← read
  modify (inp.skipMarkedComments inp.chars.size)

def onNewLine : Reader Bool := return (← tokenStart).2

def tokenChar (k : Nat) : Reader (Option Char) := do
  let (i, _) ← tokenStart
  return (← read).chars[i + k]?

def guardThat (b : Bool) : Reader Unit := if b then return else failure

def tokenStarts (s : String) : Reader Bool := do
  let (i, _) ← tokenStart
  return (← read).hasAt i s.toList

def skipWhile (test : Char → Bool) : Reader Unit := do
  let inp ← read
  modify (inp.skipWhile test)

def satisfy (test : Char → Bool) : Reader Char := do
  match ← peek with
  | some c => if test c then advance 1; return c else failure
  | none => failure

def exactly (s : String) : Reader Unit := do
  if (← read).hasAt (← get) s.toList then advance s.length else failure

/-- Reads a part as a node of the given kind; white space before it is left out. -/
def node (kind : String) (body : Reader (List Node)) : Reader Node := do
  skip
  let start ← offset
  let children ← body
  return { kind := kind, start := start, stop := ← offset, children := children }

def leaf (kind : String) (body : Reader Unit) : Reader Node := node kind (do body; return [])

def grow (kind : String) (first : Node) (children : List Node) : Reader Node := do
  return { kind := kind, start := first.start, stop := ← offset, children := first :: children }

def punct (s : String) : Reader Node := do
  return { ← leaf s (exactly s) with named := false }

def punctNot (s : String) (after : List Char) : Reader Node := do
  let t ← punct s
  match ← peek with
  | some c => if after.contains c then failure else return t
  | none => return t

def accept (s : String) : Reader Bool := (do let _ ← punct s; return true) <|> return false

def attempt (p : Reader α) : Reader (Option α) := (do return some (← p)) <|> return none

def ahead (p : Reader α) : Reader Bool := do
  let i ← get
  let ok ← (do let _ ← p; return true) <|> return false
  set i
  return ok

def manyWithin (p : Reader α) : Nat → Reader (List α)
  | 0 => return []
  | fuel + 1 => do
    let i ← get
    match ← attempt p with
    | none => return []
    | some a => if (← get) ≤ i then return [a] else return a :: (← manyWithin p fuel)

def many (p : Reader α) : Reader (List α) := do manyWithin p ((← read).chars.size + 1 - (← get))

def sparseWithin (p : Reader Node) : Nat → Reader (List Node)
  | 0 => return []
  | fuel + 1 => do
    let item ← attempt p
    if ← accept "," then return item.toList ++ (← sparseWithin p fuel) else return item.toList

def sparse (p : Reader Node) : Reader (List Node) := do
  sparseWithin p ((← read).chars.size + 1 - (← get))

/-- Items between commas, with a comma after the last one allowed. -/
def commasWithin (p : Reader Node) : Nat → Reader (List Node)
  | 0 => return []
  | fuel + 1 => do
    match ← attempt p with
    | none => return []
    | some item => if ← accept "," then return item :: (← commasWithin p fuel) else return [item]

def commas (p : Reader Node) : Reader (List Node) := do
  commasWithin p ((← read).chars.size + 1 - (← get))

end Reader

end MarkupCensus.Grammar

namespace MarkupCensus

def Node.as (n : Node) (role : String) : Node := { n with role := some role }

def Node.kinded (n : Node) (kind : String) : Node := { n with kind := kind }

end MarkupCensus
