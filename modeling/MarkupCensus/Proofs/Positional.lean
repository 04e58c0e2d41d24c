import Mathlib.Data.Nat.Digits.Lemmas
import MarkupCensus.Proofs.Numerals

namespace MarkupCensus.Numeral

/-- The number that the digits in a text denote in a base, whatever stands between them. -/
def denoted (base : Nat) (cs : List Char) : Nat :=
  Nat.ofDigits base (cs.filterMap Digit.hexValue?).reverse

theorem ofDigits_eq (base : Nat) (ds : List Nat) : ofDigits base ds = Nat.ofDigits base ds.reverse := by
  induction ds using List.reverseRecOn with
  | nil => rfl
  | append_singleton ds d ih =>
    have hstep : ofDigits base (ds ++ [d]) = ofDigits base ds * base + d := by
      rw [ofDigits, List.foldl_append]
      rfl
    rw [hstep, ih, List.reverse_append, List.reverse_singleton, List.singleton_append,
      Nat.ofDigits_cons, Nat.mul_comm, Nat.add_comm]

/-- Digits are read as the number that they denote. -/
theorem ofDigits_filterMap (base : Nat) (cs : List Char) :
    ofDigits base (cs.filterMap Digit.hexValue?) = denoted base cs := ofDigits_eq base _

/-- Digits denote a number below the power of the base that their count gives. -/
theorem denoted_lt {base : Nat} {cs : List Char} (hbase : 1 < base)
    (h : ∀ c ∈ cs, isDigitOf base c = true) : denoted base cs < base ^ cs.length := by
  have hdigits : ∀ d ∈ (cs.filterMap Digit.hexValue?).reverse, d < base := by
    intro d hd
    obtain ⟨c, hc, hvalue⟩ := List.mem_filterMap.1 (List.mem_reverse.1 hd)
    simpa [isDigitOf, hvalue] using h c hc
  have hlength : (cs.filterMap Digit.hexValue?).reverse.length ≤ cs.length := by
    rw [List.length_reverse]
    exact List.length_filterMap_le _ _
  calc denoted base cs < base ^ (cs.filterMap Digit.hexValue?).reverse.length :=
        Nat.ofDigits_lt_base_pow_length hbase hdigits
    _ ≤ base ^ cs.length := Nat.pow_le_pow_right (by omega) hlength

end MarkupCensus.Numeral
