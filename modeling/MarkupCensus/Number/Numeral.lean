import MarkupCensus.Literal.Fault
import MarkupCensus.Number.Binary64
import MarkupCensus.Text.Blank
import MarkupCensus.Text.Case
import MarkupCensus.Text.Digit

namespace MarkupCensus

/-- The value of a numeric literal: exact where it is known to be integral, else binary64. -/
inductive Number where
  | int (n : Int)
  | real (x : Binary64)
deriving DecidableEq, Repr, Inhabited

namespace Numeral

/-- Blanks around a numeral. Of the ASCII controls only the line and page ones count. -/
def isMargin (c : Char) : Bool :=
  if c.toNat < 0x80 then c.toNat == 0x20 || (0x9 ≤ c.toNat && c.toNat ≤ 0xD) else Blank.isBlank c

def trim (cs : List Char) : List Char :=
  ((cs.dropWhile isMargin).reverse.dropWhile isMargin).reverse

/-- Decimal digits of other scripts count as the ASCII ones. -/
def foldDigit (c : Char) : Char :=
  if c.toNat < 0x80 then c
  else match Digit.value? c.toNat with
    | some d => Char.ofNat (0x30 + d)
    | none => c

/-- Splits a leading sign off; true for a minus. -/
def splitSign : List Char → Bool × List Char
  | '-' :: cs => (true, cs)
  | '+' :: cs => (false, cs)
  | cs => (false, cs)

/-- Reads digits of a base; a single low line may stand between two of them. -/
def digits? (base : Nat) : List Char → Option (List Nat)
  | [] => none
  | [c] => (Digit.hexValue? c).bind fun d => if d < base then some [d] else none
  | c :: '_' :: cs => do
    let d ← Digit.hexValue? c
    if d < base then (d :: ·) <$> digits? base cs else none
  | c :: cs => do
    let d ← Digit.hexValue? c
    if d < base then (d :: ·) <$> digits? base cs else none

def ofDigits (base : Nat) (ds : List Nat) : Nat := ds.foldl (fun n d => n * base + d) 0

def baseOfMark : Char → Option Nat
  | 'x' | 'X' => some 16
  | 'o' | 'O' => some 8
  | 'b' | 'B' => some 2
  | _ => none

def dropMark (base : Nat) (cs : List Char) : List Char :=
  match cs with
  | '0' :: m :: rest =>
    if baseOfMark m = some base then (if rest.head? = some '_' then rest.drop 1 else rest) else cs
  | _ => cs

/-- Reads an integer in a base, with blanks around it, a sign, and the mark of the base if any. -/
def integer? (base : Nat) (text : List Char) : Option Int :=
  let (negative, cs) := splitSign ((trim text).map foldDigit)
  (digits? base (dropMark base cs)).map fun ds =>
    let n : Int := ofDigits base ds
    if negative then -n else n

def spanDigits (cs : List Char) : List Char × List Char := cs.span Char.isDigit

def digitsValue (cs : List Char) : Nat := ofDigits 10 (cs.filterMap Digit.hexValue?)

/-- Reads an exponent part that fills the text; none at all counts as zero. -/
def exponent? : List Char → Option Int
  | [] => some 0
  | 'e' :: cs =>
    let (negative, cs) := splitSign cs
    let (ds, rest) := spanDigits cs
    if ds.isEmpty || !rest.isEmpty then none
    else some (if negative then -(digitsValue ds : Int) else digitsValue ds)
  | _ => none

def unsigned? (negative : Bool) (cs : List Char) : Option Binary64 :=
  let (whole, rest) := spanDigits cs
  let (fraction, rest) := match rest with
    | '.' :: rest => spanDigits rest
    | _ => ([], rest)
  if whole.isEmpty && fraction.isEmpty then none
  else (exponent? rest).map fun e =>
    Binary64.ofDecimal negative (digitsValue (whole ++ fraction)) (e - fraction.length)

/-- Reads a decimal numeral in lower case, or a word for a value that is no decimal. -/
def decimal? (text : List Char) : Option Binary64 :=
  let (negative, cs) := splitSign ((trim text).map foldDigit)
  if cs = "nan".toList then some .nan
  else if cs = "inf".toList || cs = "infinity".toList then some (.infinite negative)
  else unsigned? negative cs

/-- A numeral of octal digits alone that starts with a zero and has another digit. -/
def isLegacyOctal : List Char → Bool
  | '0' :: c :: cs => (c :: cs).all fun d => '0' ≤ d && d ≤ '7'
  | _ => false

/-- Separators are dropped, case is ignored, and so is the suffix of big integers. -/
def normalize (text : List Char) : List Char :=
  let cs := Case.lowerCase (text.filter (· != '_'))
  if cs.getLast? = some 'n' then cs.dropLast else cs

/-- Integral values up to 2 ^ 53 are given exactly. -/
def ofBinary64 (x : Binary64) : Number :=
  match x.toInt? with
  | some n => if n.natAbs < Binary64.twoTo 53 then .int n else .real x
  | none => .real x

def markedBase : List Char → Option Nat
  | '0' :: m :: _ => baseOfMark m
  | _ => none

/-- The value of a numeric literal: with a marked base or in legacy octal an exact integer, else
the nearest binary64 number. -/
def value (text : List Char) : Except LiteralFault Number :=
  let cs := normalize text
  match markedBase cs with
  | some base =>
    match integer? base cs with
    | some n => .ok (.int n)
    | none => .error (.notInteger 0 (String.ofList cs))
  | none =>
    if isLegacyOctal cs then .ok (.int (ofDigits 8 (cs.filterMap Digit.hexValue?)))
    else match decimal? cs with
      | some x => .ok (ofBinary64 x)
      | none => .error (.notDecimal (String.ofList cs))

end Numeral

end MarkupCensus
