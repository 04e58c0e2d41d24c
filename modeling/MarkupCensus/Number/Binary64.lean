namespace MarkupCensus

/-- A binary64 number: `± mantissa · 2 ^ exponent`, an infinity, or not a number. -/
inductive Binary64 where
  | finite (negative : Bool) (mantissa : Nat) (exponent : Int)
  | infinite (negative : Bool)
  | nan
deriving DecidableEq, Repr, Inhabited

namespace Binary64

def twoTo (n : Nat) : Nat := Nat.pow 2 n

def tenTo (n : Nat) : Nat := Nat.pow 10 n

/-- Divides, and rounds to the nearest integer; a half goes to the even one. -/
def roundDiv (n d : Nat) : Nat :=
  let q := n / d
  let r := n % d
  if 2 * r < d then q else if d < 2 * r then q + 1 else q + q % 2

def scale (n d : Nat) (e : Int) : Nat × Nat :=
  if e < 0 then (n, d * twoTo e.natAbs) else (n * twoTo e.natAbs, d)

/-- The `e` with `2 ^ e ≤ n / d < 2 ^ (e + 1)`, for positive `n` and `d`. -/
def floorLog2 (n d : Nat) : Int :=
  let e : Int := (n.log2 : Int) - d.log2
  let s := scale n d (-e)
  if s.1 < s.2 then e - 1 else e

/-- The exponent of the last place of the numbers around `n / d`. -/
def lastPlace (n d : Nat) : Int := max (-1074) (floorLog2 n d - 52)

/-- A mantissa at a place, carried into the next binade or to an infinity. -/
def pack (negative : Bool) (m : Nat) (e : Int) : Binary64 :=
  let (m, e) := if m = twoTo 53 then (twoTo 52, e + 1) else (m, e)
  if 971 < e then .infinite negative else .finite negative m e

/-- The number nearest to `± n / d`; a tie goes to the even mantissa. -/
def ofRatio (negative : Bool) (n d : Nat) : Binary64 :=
  if n = 0 then .finite negative 0 (-1074)
  else
    let e := lastPlace n d
    let s := scale n d (-e)
    pack negative (roundDiv s.1 s.2) e

/-- The number nearest to `± n · 10 ^ e`. Beyond 310 places before the point it is infinite, and
beyond 330 zeros after the point it is zero, whatever the digits. -/
def ofDecimal (negative : Bool) (n : Nat) (e : Int) : Binary64 :=
  let places : Int := (Nat.toDigits 10 n).length + e
  if n = 0 || places < -330 then .finite negative 0 (-1074)
  else if 310 < places then .infinite negative
  else if e < 0 then ofRatio negative n (tenTo e.natAbs)
  else ofRatio negative (n * tenTo e.natAbs) 1

def toInt? : Binary64 → Option Int
  | .finite negative m e =>
    let s := scale m 1 e
    if s.1 % s.2 = 0 then
      let n : Int := (s.1 / s.2 : Nat)
      some (if negative then -n else n)
    else none
  | _ => none

end Binary64

end MarkupCensus
