import MarkupCensus.Document
import MarkupCensus.Proofs.Written

namespace MarkupCensus.Json

/-- The characters that may stand between the tokens of a JSON text. -/
def isBlank (c : Char) : Bool := c == ' ' || c == '\t' || c == '\n' || c == '\r'

def skip (cs : List Char) : List Char := cs.dropWhile isBlank

/-- What a letter stands for after a backslash. -/
def escapeOf? : Char → Option Char
  | '"' => some '"'
  | '\\' => some '\\'
  | '/' => some '/'
  | 'b' => some (Char.ofNat 0x08)
  | 'f' => some (Char.ofNat 0x0C)
  | 'n' => some '\n'
  | 'r' => some '\r'
  | 't' => some '\t'
  | _ => none

/-- The code unit that four hexadecimal digits spell. -/
def unitOf? (ds : List Char) : Option CodePoint := do
  let n := Numeral.ofDigits 16 (← ds.mapM Digit.hexValue?)
  if h : n < 0x110000 then some ⟨n, h⟩ else none

/-- Reads a string up to its closing quote, as it is spelled: characters, and code units for
escapes. Control characters cannot stand for themselves. -/
def readUnits : List Char → Option (Text × List Char)
  | [] => none
  | '"' :: rest => some ([], rest)
  | '\\' :: 'u' :: a :: b :: c :: d :: rest => do
    let u ← unitOf? [a, b, c, d]
    let (t, rest) ← readUnits rest
    some (u :: t, rest)
  | '\\' :: c :: rest => do
    let x ← escapeOf? c
    let (t, rest) ← readUnits rest
    some (CodePoint.ofChar x :: t, rest)
  | c :: rest =>
    if c.toNat < 0x20 then none
    else do
      let (t, rest) ← readUnits rest
      some (CodePoint.ofChar c :: t, rest)

/-- Joins the surrogates that escapes spell to characters. A lone one makes the text ill-formed. -/
def joinPairs : Text → Option Text
  | [] => some []
  | [c] => if c.isSurrogate then none else some [c]
  | c :: d :: t =>
    if c.isSurrogate then
      if c.val < 0xDC00 && 0xDC00 ≤ d.val && d.val ≤ 0xDFFF then
        (joinPairs t).map
          (CodePoint.ofChar (Char.ofNat (0x10000 + (c.val - 0xD800) * 0x400 + (d.val - 0xDC00))) :: ·)
      else none
    else (joinPairs (d :: t)).map (c :: ·)

/-- Reads a string after its opening quote. -/
def readString (cs : List Char) : Option (Text × List Char) := do
  let (t, rest) ← readUnits cs
  let t ← joinPairs t
  some (t, rest)

/-- The number that decimal digits spell. -/
def digitsValue (ds : List Char) : Nat := Nat.ofDigitChars 10 ds 0

def signed (negative : Bool) (n : Nat) : Int := if negative then -n else n

/-- Reads a fraction, if there is one: a point and at least one digit. -/
def readFraction : List Char → Option (List Char × List Char)
  | '.' :: cs =>
    let (ds, rest) := Numeral.spanDigits cs
    if ds.isEmpty then none else some (ds, rest)
  | cs => some ([], cs)

/-- Reads an exponent, if there is one: its letter, a sign or none, and at least one digit. -/
def readExponent : List Char → Option (Option Int × List Char)
  | [] => some (none, [])
  | c :: cs =>
    if c = 'e' || c = 'E' then
      let (negative, cs) := Numeral.splitSign cs
      let (ds, rest) := Numeral.spanDigits cs
      if ds.isEmpty then none else some (some (signed negative (digitsValue ds)), rest)
    else some (none, c :: cs)

/-- The parts of a number: its digits before and after the point, and its exponent. -/
structure Parts where
  whole : List Char
  fraction : List Char := []
  exponent : Option Int := none

/-- What a number stands for: an integer if it is written as one, else the nearest binary64 number. -/
def Parts.number (p : Parts) (negative : Bool) : Number :=
  if p.fraction.isEmpty && p.exponent.isNone then .int (signed negative (digitsValue p.whole))
  else .real (Binary64.ofDecimal negative (digitsValue (p.whole ++ p.fraction))
    (p.exponent.getD 0 - p.fraction.length))

/-- Reads a number. It starts with a digit, and with a zero only before the point. -/
def readUnsigned (negative : Bool) (cs : List Char) : Option (Number × List Char) :=
  let (whole, rest) := Numeral.spanDigits cs
  if whole.isEmpty || (whole.head? = some '0' && 1 < whole.length) then none
  else do
    let (fraction, rest) ← readFraction rest
    let (exponent, rest) ← readExponent rest
    some (Parts.number { whole, fraction, exponent } negative, rest)

def readNumber : List Char → Option (Number × List Char)
  | '-' :: cs => readUnsigned true cs
  | cs => readUnsigned false cs

/-- Reads the key of a field and the colon after it. -/
def readKey (cs : List Char) : Option (String × List Char) :=
  match skip cs with
  | '"' :: cs => do
    let (t, rest) ← readString cs
    let key ← t.toString?
    match skip rest with
    | ':' :: rest => some (key, rest)
    | _ => none
  | _ => none

mutual

/-- Reads a value. Each value, item and field takes one step. -/
def readValue : Nat → List Char → Option (Document × List Char)
  | 0, _ => none
  | steps + 1, cs =>
    match skip cs with
    | 'n' :: 'u' :: 'l' :: 'l' :: rest => some (.null, rest)
    | 't' :: 'r' :: 'u' :: 'e' :: rest => some (.bool true, rest)
    | 'f' :: 'a' :: 'l' :: 's' :: 'e' :: rest => some (.bool false, rest)
    | '"' :: rest => (readString rest).map fun r => (.text r.1, r.2)
    | '[' :: rest =>
      match skip rest with
      | ']' :: rest => some (.list [], rest)
      | rest => do
        let (d, rest) ← readValue steps rest
        let (ds, rest) ← readItems steps rest
        some (.list (d :: ds), rest)
    | '{' :: rest =>
      match skip rest with
      | '}' :: rest => some (.object [], rest)
      | rest => do
        let (k, rest) ← readKey rest
        let (d, rest) ← readValue steps rest
        let (fs, rest) ← readFields steps rest
        some (.object ((k, d) :: fs), rest)
    | cs => (readNumber cs).map fun r => (.number r.1, r.2)

/-- Reads the items after the first, up to the closing bracket. -/
def readItems : Nat → List Char → Option (List Document × List Char)
  | 0, _ => none
  | steps + 1, cs =>
    match skip cs with
    | ']' :: rest => some ([], rest)
    | ',' :: rest => do
      let (d, rest) ← readValue steps rest
      let (ds, rest) ← readItems steps rest
      some (d :: ds, rest)
    | _ => none

/-- Reads the fields after the first, up to the closing brace. -/
def readFields : Nat → List Char → Option (List (String × Document) × List Char)
  | 0, _ => none
  | steps + 1, cs =>
    match skip cs with
    | '}' :: rest => some ([], rest)
    | ',' :: rest => do
      let (k, rest) ← readKey rest
      let (d, rest) ← readValue steps rest
      let (fs, rest) ← readFields steps rest
      some ((k, d) :: fs, rest)
    | _ => none

end

/-- The document that a strict JSON text spells: one value with nothing but blanks around it. -/
def read? (cs : List Char) : Option Document := do
  let (d, rest) ← readValue (cs.length + 1) cs
  if (skip rest).isEmpty then some d else none

end MarkupCensus.Json
