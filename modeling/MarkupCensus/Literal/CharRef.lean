import MarkupCensus.Literal.CharRefNames
import MarkupCensus.Literal.Fault
import MarkupCensus.Text.Digit

namespace MarkupCensus.CharRef

/-- The characters that the numbers 0x80 to 0x9F of the Windows code page stand for. -/
def windows : List Nat :=
  [0x20AC, 0x81, 0x201A, 0x192, 0x201E, 0x2026, 0x2020, 0x2021, 0x2C6, 0x2030, 0x160, 0x2039,
   0x152, 0x8D, 0x17D, 0x8F, 0x90, 0x2018, 0x2019, 0x201C, 0x201D, 0x2022, 0x2013, 0x2014, 0x2DC,
   0x2122, 0x161, 0x203A, 0x153, 0x9D, 0x17E, 0x178]

/-- Controls and noncharacters, whose numbers stand for nothing. -/
def isVoid (n : Nat) : Bool :=
  (1 ≤ n && n ≤ 8) || n == 0xB || (0xE ≤ n && n ≤ 0x1F) || n == 0x7F || (0xFDD0 ≤ n && n ≤ 0xFDEF)
    || n % 0x10000 == 0xFFFE || n % 0x10000 == 0xFFFF

def ofNumber (n : Nat) : List Char :=
  if n = 0 then [Char.ofNat 0xFFFD]
  else if 0x80 ≤ n && n ≤ 0x9F then [Char.ofNat (windows.getD (n - 0x80) n)]
  else if (0xD800 ≤ n && n ≤ 0xDFFF) || 0x10FFFF < n then [Char.ofNat 0xFFFD]
  else if isVoid n then []
  else [Char.ofNat n]

/-- What a name stands for; a name that ends in a semicolon is looked up without it. -/
def ofName? (name : List Char) : Option (List Char) :=
  match name with
  | [] => none
  | c :: _ =>
    let terminated := name.getLast? = some ';'
    let key := String.ofList (if terminated then name.dropLast else name)
    if terminated || unterminated.contains key then
      ((namesFrom c).lookup key).map (·.map Char.ofNat)
    else none

def isNameChar (c : Char) : Bool :=
  !(c == '\t' || c == '\n' || c.toNat == 0xC || c == ' ' || c == '<' || c == '&' || c == '#' || c == ';')

/-- The longest known name that starts `name` and has from two to `n` characters, and what is left
of `name` after it. -/
def longest? (name : List Char) : Nat → Option (List Char)
  | 0 | 1 => none
  | n + 2 =>
    match ofName? (name.take (n + 2)) with
    | some cs => some (cs ++ name.drop (n + 2))
    | none => longest? name (n + 1)

/-- Reads a name as a reference: the whole of it, else its longest known start. -/
def named (name : List Char) : List Char :=
  match ofName? name with
  | some cs => cs
  | none => (longest? name (name.length - 1)).getD ('&' :: name)

def splitSemicolon : List Char → List Char × List Char
  | ';' :: cs => ([';'], cs)
  | cs => ([], cs)

def decimalDigits (cs : List Char) : List Char × List Char := cs.span Char.isDigit

def hexDigits (cs : List Char) : List Char × List Char := cs.span fun c => (Digit.hexValue? c).isSome

def valueOf (base : Nat) (cs : List Char) : Nat :=
  (cs.filterMap Digit.hexValue?).foldl (fun n d => n * base + d) 0

/-- The number that digits stand for. Decimal ones are limited in their count. -/
def numberOf (base : Nat) (digits : List Char) : Except LiteralFault Nat :=
  if base = 10 ∧ digitLimit < digits.length then .error (.overlongNumeral digits.length)
  else .ok (valueOf base digits)

/-- Reads the reference that follows an ampersand, if one does: what it stands for and the rest. -/
def reference? (cs : List Char) : Except LiteralFault (Option (List Char × List Char)) :=
  match cs with
  | '#' :: x :: rest =>
    let (base, (digits, rest)) :=
      if x = 'x' || x = 'X' then (16, hexDigits rest) else (10, decimalDigits (x :: rest))
    if digits.isEmpty then .ok none
    else (numberOf base digits).map fun n => some (ofNumber n, (splitSemicolon rest).2)
  | _ =>
    let name := (cs.take 32).takeWhile isNameChar
    if name.isEmpty then .ok none
    else
      let (semicolon, rest) := splitSemicolon (cs.drop name.length)
      .ok (some (named (name ++ semicolon), rest))

/-- Replaces the character references of a text. The bound is at least the length of the text. -/
def unescapeWithin : Nat → List Char → Except LiteralFault (List Char)
  | 0, cs => .ok cs
  | _ + 1, [] => .ok []
  | n + 1, c :: cs => do
    if c = '&' then
      match ← reference? cs with
      | some (out, rest) => return out ++ (← unescapeWithin n rest)
      | none => return c :: (← unescapeWithin n cs)
    else return c :: (← unescapeWithin n cs)

/-- Replaces the character references of a text, as HTML reads them: numbers, and names, the
longest known start of which counts where the whole is unknown. -/
def unescape (cs : List Char) : Except LiteralFault (List Char) := unescapeWithin cs.length cs

end MarkupCensus.CharRef
