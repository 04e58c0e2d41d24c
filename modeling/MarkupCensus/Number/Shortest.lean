import MarkupCensus.Number.Binary64

namespace MarkupCensus.Shortest

open Binary64 (twoTo tenTo)

structure Decimal where
  digits : Nat
  exponent : Int
deriving DecidableEq, Repr

/-- The reals that round to `mantissa · 2 ^ exponent`, in units of a quarter of its last place. The
ends belong to it when the mantissa is even. -/
structure Interval where
  low : Nat
  middle : Nat
  high : Nat
  closed : Bool

def interval (m : Nat) (e : Int) : Interval where
  low := 4 * m - (if m = twoTo 52 && (-1074 : Int) < e then 1 else 2)
  middle := 4 * m
  high := 4 * m + 2
  closed := m % 2 = 0

/-- `a · 10 ^ k` and `b · 2 ^ e` over one denominator. -/
def align (a : Nat) (k : Int) (b : Nat) (e : Int) : Nat × Nat :=
  let (a, b) := if k < 0 then (a, b * tenTo k.natAbs) else (a * tenTo k.natAbs, b)
  if e < 0 then (a * twoTo e.natAbs, b) else (a, b * twoTo e.natAbs)

/-- Whether `c · 10 ^ k` lies in the interval whose unit is `2 ^ e`. -/
def Interval.holds (i : Interval) (e : Int) (c : Nat) (k : Int) : Bool :=
  let l := align c k i.low e
  let h := align c k i.high e
  if i.closed then l.2 ≤ l.1 && h.1 ≤ h.2 else l.2 < l.1 && h.1 < h.2

/-- The distance of `c · 10 ^ k` from the middle, over a denominator that depends on `k` alone. -/
def Interval.distance (i : Interval) (e : Int) (c : Nat) (k : Int) : Nat :=
  let p := align c k i.middle e
  (p.1 - p.2) + (p.2 - p.1)

/-- The multiple of `10 ^ k` in the interval that is nearest to its middle, of two as near the even
one. -/
def Interval.pick (i : Interval) (e : Int) (k : Int) : Option Nat :=
  let p := align 1 k i.middle e
  let c := p.2 / p.1
  match i.holds e c k, i.holds e (c + 1) k with
  | false, false => none
  | true, false => some c
  | false, true => some (c + 1)
  | true, true =>
    let d := i.distance e c k
    let d' := i.distance e (c + 1) k
    some (if d < d' then c else if d' < d then c + 1 else c + c % 2)

/-- The `k` with `10 ^ k ≤ m · 2 ^ e < 10 ^ (k + 1)`. -/
def floorLog10 (m : Nat) (e : Int) : Int :=
  let p := if e < 0 then m * tenTo 400 / twoTo e.natAbs else m * twoTo e.natAbs * tenTo 400
  (Nat.toDigits 10 p).length - 401

/-- The decimal of fewest digits that reads back as `m · 2 ^ e`, and of those the nearest. -/
def decimal (m : Nat) (e : Int) : Decimal :=
  let i := interval m e
  let top := floorLog10 m e
  let places := (List.range 17).map fun (n : Nat) => top - n
  match places.findSome? fun k => (i.pick (e - 2) k).map fun c => (⟨c, k⟩ : Decimal) with
  | some d => d
  | none => ⟨m, e⟩

def dropZeros (ds : List Char) : List Char := (ds.reverse.dropWhile (· == '0')).reverse

/-- How numbers are written: the powers of ten written positionally, and the words for the values
that are no decimals. -/
structure Format where
  positionalFrom : Int
  positionalBelow : Int
  infinity : String
  notANumber : String

def exponentText (e : Int) : String :=
  let ds := String.ofList (Nat.toDigits 10 e.natAbs)
  (if e < 0 then "-" else "+") ++ (if e.natAbs < 10 then "0" ++ ds else ds)

/-- Writes the digits `ds` whose first one counts `10 ^ p`. -/
def Format.place (f : Format) (ds : List Char) (p : Int) : String :=
  if f.positionalFrom ≤ p && p < f.positionalBelow then
    if p < 0 then "0." ++ String.ofList (List.replicate (p.natAbs - 1) '0' ++ ds)
    else
      let whole := ds.take (p.natAbs + 1)
      let fraction := ds.drop (p.natAbs + 1)
      String.ofList (whole ++ List.replicate (p.natAbs + 1 - whole.length) '0') ++ "."
        ++ (if fraction.isEmpty then "0" else String.ofList fraction)
  else
    String.ofList (ds.take 1) ++ (if ds.length ≤ 1 then "" else "." ++ String.ofList (ds.drop 1))
      ++ "e" ++ exponentText p

def Format.render (f : Format) : Binary64 → String
  | .nan => f.notANumber
  | .infinite negative => (if negative then "-" else "") ++ f.infinity
  | .finite negative m e =>
    let body :=
      if m = 0 then "0.0"
      else
        let d := decimal m e
        let ds := Nat.toDigits 10 d.digits
        f.place (dropZeros ds) (d.exponent + ds.length - 1)
    (if negative then "-" else "") ++ body

end MarkupCensus.Shortest
