import MarkupCensus.Number.Binary64
import Mathlib.Algebra.Order.Field.Power
import Mathlib.Data.Nat.Cast.Order.Field
import Mathlib.Tactic.FieldSimp
import Mathlib.Tactic.Linarith
import Mathlib.Tactic.NormNum
import Mathlib.Tactic.Positivity

namespace MarkupCensus.Binary64

variable {n d m : Nat} {e : Int}

theorem twoTo_eq (n : Nat) : twoTo n = 2 ^ n := rfl

theorem tenTo_eq (n : Nat) : tenTo n = 10 ^ n := rfl

theorem twoTo_pos (n : Nat) : 0 < twoTo n := Nat.two_pow_pos n

theorem tenTo_pos (n : Nat) : 0 < tenTo n := Nat.pow_pos (by norm_num)

theorem zpow_natAbs_of_neg (b : ℚ) (h : e < 0) : b ^ e = (b ^ e.natAbs)⁻¹ := by
  rw [← zpow_natCast, ← zpow_neg]
  congr 1
  omega

theorem zpow_natAbs_of_nonneg (b : ℚ) (h : ¬ e < 0) : b ^ e = b ^ e.natAbs := by
  rw [← zpow_natCast]
  congr 1
  omega

theorem scale_pos (hd : 0 < d) (n : Nat) (e : Int) : 0 < (scale n d e).2 := by
  unfold scale
  split
  · exact Nat.mul_pos hd (twoTo_pos _)
  · exact hd

theorem scale_eq (n d : Nat) (e : Int) :
    ((scale n d e).1 : ℚ) / (scale n d e).2 = n / d * 2 ^ e := by
  unfold scale
  split
  next h =>
    rw [zpow_natAbs_of_neg 2 h, twoTo_eq]
    push_cast
    rw [← div_div, div_eq_mul_inv]
  next h =>
    rw [zpow_natAbs_of_nonneg 2 h, twoTo_eq]
    push_cast
    rw [mul_div_right_comm]

/-- The binary logarithm is within one of the difference of the logarithms. -/
theorem log2_bounds (hn : 0 < n) (hd : 0 < d) :
    (2 : ℚ) ^ ((n.log2 : Int) - d.log2 - 1) < n / d ∧
      (n : ℚ) / d < 2 ^ ((n.log2 : Int) - d.log2 + 1) := by
  have hd' : (0 : ℚ) < d := by positivity
  have hn_low : (2 : ℚ) ^ (n.log2 : Int) ≤ n := by
    rw [zpow_natCast]
    exact_mod_cast Nat.log2_self_le hn.ne'
  have hn_high : (n : ℚ) < 2 ^ ((n.log2 : Int) + 1) := by
    rw [← Nat.cast_one, ← Nat.cast_add, zpow_natCast]
    exact_mod_cast Nat.lt_log2_self
  have hd_low : (2 : ℚ) ^ (d.log2 : Int) ≤ d := by
    rw [zpow_natCast]
    exact_mod_cast Nat.log2_self_le hd.ne'
  have hd_high : (d : ℚ) < 2 ^ ((d.log2 : Int) + 1) := by
    rw [← Nat.cast_one, ← Nat.cast_add, zpow_natCast]
    exact_mod_cast Nat.lt_log2_self
  have h2 : (2 : ℚ) ≠ 0 := by norm_num
  constructor
  · rw [lt_div_iff₀ hd']
    calc (2 : ℚ) ^ ((n.log2 : Int) - d.log2 - 1) * d
        < 2 ^ ((n.log2 : Int) - d.log2 - 1) * 2 ^ ((d.log2 : Int) + 1) := by gcongr
      _ = 2 ^ (n.log2 : Int) := by rw [← zpow_add₀ h2]; congr 1; omega
      _ ≤ n := hn_low
  · rw [div_lt_iff₀ hd']
    calc (n : ℚ) < 2 ^ ((n.log2 : Int) + 1) := hn_high
      _ = 2 ^ ((n.log2 : Int) - d.log2 + 1) * 2 ^ (d.log2 : Int) := by
        rw [← zpow_add₀ h2]; congr 1; omega
      _ ≤ 2 ^ ((n.log2 : Int) - d.log2 + 1) * d := by gcongr

theorem floorLog2_spec (hn : 0 < n) (hd : 0 < d) :
    (2 : ℚ) ^ floorLog2 n d ≤ n / d ∧ (n : ℚ) / d < 2 ^ (floorLog2 n d + 1) := by
  obtain ⟨hlow, hhigh⟩ := log2_bounds hn hd
  generalize he : (n.log2 : Int) - d.log2 = e at hlow hhigh
  have hscale : (scale n d (-e)).1 < (scale n d (-e)).2 ↔ (n : ℚ) / d < 2 ^ e := by
    have hpos : (0 : ℚ) < (scale n d (-e)).2 := by exact_mod_cast scale_pos hd n (-e)
    have heq := scale_eq n d (-e)
    rw [← Nat.cast_lt (α := ℚ), ← div_lt_one hpos, heq, zpow_neg, ← div_eq_mul_inv,
      div_lt_one (by positivity)]
  unfold floorLog2
  simp only [he]
  split
  next h => exact ⟨hlow.le, by rw [sub_add_cancel]; exact hscale.1 h⟩
  next h => exact ⟨not_lt.1 fun hlt => h (hscale.2 hlt), hhigh⟩

/-- The last place is that of the binade of the number, or the last one there is. -/
theorem lastPlace_spec (hn : 0 < n) (hd : 0 < d) :
    -1074 ≤ lastPlace n d ∧ (n : ℚ) / d < 2 ^ (lastPlace n d + 53) ∧
      (-1074 < lastPlace n d → (2 : ℚ) ^ (lastPlace n d + 52) ≤ n / d) := by
  obtain ⟨hlow, hhigh⟩ := floorLog2_spec hn hd
  unfold lastPlace
  refine ⟨by omega, ?_, ?_⟩
  · calc (n : ℚ) / d < 2 ^ (floorLog2 n d + 1) := hhigh
      _ ≤ 2 ^ (max (-1074) (floorLog2 n d - 52) + 53) := by
        apply zpow_le_zpow_right₀ (by norm_num)
        omega
  · intro h
    have hmax : max (-1074) (floorLog2 n d - 52) + 52 = floorLog2 n d := by omega
    rw [hmax]
    exact hlow

theorem lastPlace_eq (hn : 0 < n) (hd : 0 < d) (he : -1074 ≤ e)
    (hlow : e = -1074 ∨ (2 : ℚ) ^ (e + 52) ≤ n / d) (hhigh : (n : ℚ) / d < 2 ^ (e + 53)) :
    lastPlace n d = e := by
  obtain ⟨hplace, hhigh', hlow'⟩ := lastPlace_spec hn hd
  have hmono {a b : Int} (h : (2 : ℚ) ^ a < 2 ^ b) : a < b :=
    (zpow_lt_zpow_iff_right₀ (by norm_num)).1 h
  apply le_antisymm
  · by_contra hlt
    have := hmono ((hlow' (by omega)).trans_lt hhigh)
    omega
  · rcases hlow with rfl | hlow
    · exact hplace
    · have := hmono (hlow.trans_lt hhigh')
      omega

theorem div_le_roundDiv (n d : Nat) : n / d ≤ roundDiv n d := by
  unfold roundDiv
  dsimp only
  split_ifs <;> omega

theorem roundDiv_le (n d : Nat) : roundDiv n d ≤ n / d + 1 := by
  unfold roundDiv
  dsimp only
  split_ifs <;> omega

/-- The same as `roundDiv_eq` below, with all sides multiplied out. -/
theorem roundDiv_eq_of_mul (hd : 0 < d) (hlow : 2 * (d * m) ≤ 2 * n + d)
    (hhigh : 2 * n ≤ 2 * (d * m) + d)
    (hodd : m % 2 = 1 → 2 * (d * m) < 2 * n + d ∧ 2 * n < 2 * (d * m) + d) : roundDiv n d = m := by
  have hn : n = d * (n / d) + n % d := (Nat.div_add_mod n d).symm
  have hr : n % d < d := Nat.mod_lt n hd
  -- the quotient is the integer or the one before it
  have hle : n / d ≤ m := by
    by_contra h
    have := Nat.mul_le_mul_left d (show m + 1 ≤ n / d by omega)
    rw [Nat.mul_add] at this
    omega
  have hge : m ≤ n / d + 1 := by
    by_contra h
    have := Nat.mul_le_mul_left d (show n / d + 1 + 1 ≤ m by omega)
    rw [Nat.mul_add, Nat.mul_add] at this
    omega
  unfold roundDiv
  dsimp only
  obtain hm | hm : n / d = m ∨ n / d + 1 = m := by omega
  · rw [hm] at hn ⊢
    split_ifs <;> omega
  · have hdm : d * m = d * (n / d) + d := by rw [← hm, Nat.mul_add, Nat.mul_one]
    split_ifs <;> omega

/-- A quotient is rounded to the integer within one half of it, if that is even also when it is just one
half away. -/
theorem roundDiv_eq (hd : 0 < d) (hlow : (m : ℚ) - 1 / 2 ≤ n / d) (hhigh : (n : ℚ) / d ≤ m + 1 / 2)
    (hodd : m % 2 = 1 → (m : ℚ) - 1 / 2 < n / d ∧ (n : ℚ) / d < m + 1 / 2) : roundDiv n d = m := by
  have hd' : (0 : ℚ) < d := by positivity
  apply roundDiv_eq_of_mul hd
  · rw [le_div_iff₀ hd'] at hlow
    have : (2 : ℚ) * (d * m) ≤ 2 * n + d := by linarith
    exact_mod_cast this
  · rw [div_le_iff₀ hd'] at hhigh
    have : (2 : ℚ) * n ≤ 2 * (d * m) + d := by linarith
    exact_mod_cast this
  · intro h
    obtain ⟨hlow, hhigh⟩ := hodd h
    rw [lt_div_iff₀ hd'] at hlow
    rw [div_lt_iff₀ hd'] at hhigh
    have hlow' : (2 : ℚ) * (d * m) < 2 * n + d := by linarith
    have hhigh' : (2 : ℚ) * n < 2 * (d * m) + d := by linarith
    exact ⟨by exact_mod_cast hlow', by exact_mod_cast hhigh'⟩

/-- The mantissas and exponents that finite numbers are given by: the mantissa has 53 bits, and its
first bit is zero only at the last place there is. -/
structure IsCanonical (m : Nat) (e : Int) : Prop where
  lt : m < 2 ^ 53
  low : -1074 ≤ e
  high : e ≤ 971
  normal : 2 ^ 52 ≤ m ∨ e = -1074

/-- Whether a number is in the form that rounding gives it. -/
def IsRounded : Binary64 → Prop
  | .finite _ m e => IsCanonical m e
  | _ => True

theorem isRounded_zero (negative : Bool) : IsRounded (.finite negative 0 (-1074)) :=
  ⟨by norm_num, by norm_num, by norm_num, Or.inr rfl⟩

theorem isRounded_pack (negative : Bool) (hm : m ≤ 2 ^ 53) (he : -1074 ≤ e)
    (hnormal : 2 ^ 52 ≤ m ∨ e = -1074) : IsRounded (pack negative m e) := by
  unfold pack
  by_cases hcarry : m = twoTo 53
  · simp only [hcarry, if_true]
    split
    · trivial
    · exact ⟨by norm_num [twoTo_eq], by omega, by omega, Or.inl (by norm_num [twoTo_eq])⟩
  · simp only [hcarry, if_false]
    rw [twoTo_eq] at hcarry
    split
    · trivial
    · exact ⟨by omega, he, by omega, hnormal⟩

theorem isRounded_ofRatio (negative : Bool) (n : Nat) (hd : 0 < d) :
    IsRounded (ofRatio negative n d) := by
  unfold ofRatio
  split
  · exact isRounded_zero negative
  next hn =>
  obtain ⟨hplace, hhigh, hlow⟩ := lastPlace_spec (Nat.pos_of_ne_zero hn) hd
  generalize lastPlace n d = e at hplace hhigh hlow
  have hpos : 0 < (scale n d (-e)).2 := scale_pos hd n (-e)
  have hpos' : (0 : ℚ) < (scale n d (-e)).2 := by exact_mod_cast hpos
  have heq := scale_eq n d (-e)
  have h2 : (2 : ℚ) ≠ 0 := by norm_num
  apply isRounded_pack negative _ hplace
  · by_cases he : e = -1074
    · exact Or.inr he
    · refine Or.inl (le_trans ?_ (div_le_roundDiv _ _))
      rw [Nat.le_div_iff_mul_le hpos, ← Nat.cast_le (α := ℚ), Nat.cast_mul, ← le_div_iff₀ hpos', heq]
      calc ((2 ^ 52 : Nat) : ℚ) = 2 ^ (e + 52) * 2 ^ (-e) := by
            rw [← zpow_add₀ h2, show e + 52 + -e = ((52 : Nat) : Int) by omega, zpow_natCast]
            norm_num
        _ ≤ n / d * 2 ^ (-e) := by
            have := hlow (by omega)
            gcongr
  · have hlt : (scale n d (-e)).1 / (scale n d (-e)).2 < 2 ^ 53 := by
      rw [Nat.div_lt_iff_lt_mul hpos, ← Nat.cast_lt (α := ℚ), Nat.cast_mul, ← div_lt_iff₀ hpos', heq]
      calc (n : ℚ) / d * 2 ^ (-e) < 2 ^ (e + 53) * 2 ^ (-e) := by gcongr
        _ = ((2 ^ 53 : Nat) : ℚ) := by
            rw [← zpow_add₀ h2, show e + 53 + -e = ((53 : Nat) : Int) by omega, zpow_natCast]
            norm_num
    have := roundDiv_le (scale n d (-e)).1 (scale n d (-e)).2
    omega

theorem isRounded_ofDecimal (negative : Bool) (n : Nat) (e : Int) :
    IsRounded (ofDecimal negative n e) := by
  unfold ofDecimal
  dsimp only
  split_ifs
  · exact isRounded_zero negative
  · trivial
  · exact isRounded_ofRatio negative n (tenTo_pos _)
  · exact isRounded_ofRatio negative _ Nat.one_pos

/-- The part of the last place that a number reaches down to: half of it, or a quarter at the start of a
binade. -/
def reachDown (m : Nat) (e : Int) : ℚ := if m = 2 ^ 52 ∧ -1074 < e then 1 / 4 else 1 / 2

/-- The rationals that are nearest to `m · 2 ^ e` of all numbers; the ends count if `m` is even. -/
structure IsNearest (m : Nat) (e : Int) (q : ℚ) : Prop where
  low : (m - reachDown m e) * 2 ^ e ≤ q
  high : q ≤ (m + 1 / 2) * 2 ^ e
  odd : m % 2 = 1 → (m - 1 / 2) * 2 ^ e < q ∧ q < (m + 1 / 2) * 2 ^ e

theorem reachDown_le (m : Nat) (e : Int) : reachDown m e ≤ 1 / 2 := by
  unfold reachDown
  split <;> norm_num

/-- A ratio is rounded to the multiple of a place that is within one half of it. -/
theorem roundDiv_scale_eq (hd : 0 < d) (hlow : (m - 1 / 2) * 2 ^ e ≤ (n : ℚ) / d)
    (hhigh : (n : ℚ) / d ≤ (m + 1 / 2) * 2 ^ e)
    (hodd : m % 2 = 1 → (m - 1 / 2) * 2 ^ e < (n : ℚ) / d ∧ (n : ℚ) / d < (m + 1 / 2) * 2 ^ e) :
    roundDiv (scale n d (-e)).1 (scale n d (-e)).2 = m := by
  have h2 : (0 : ℚ) < 2 ^ e := by positivity
  have heq : ((scale n d (-e)).1 : ℚ) / (scale n d (-e)).2 = n / d / 2 ^ e := by
    rw [scale_eq, zpow_neg, div_eq_mul_inv (n / d : ℚ)]
  apply roundDiv_eq (scale_pos hd n (-e))
  · rwa [heq, le_div_iff₀ h2]
  · rwa [heq, div_le_iff₀ h2]
  · rwa [heq, lt_div_iff₀ h2, div_lt_iff₀ h2]

theorem two_zpow_add (e : Int) (k : Nat) : (2 : ℚ) ^ (e + k) = 2 ^ k * 2 ^ e := by
  rw [zpow_add₀ (by norm_num), zpow_natCast, mul_comm]

theorem ofRatio_eq_pack (hn : 0 < n) (hplace : lastPlace n d = e)
    (hround : roundDiv (scale n d (-e)).1 (scale n d (-e)).2 = m) (negative : Bool) :
    ofRatio negative n d = pack negative m e := by
  simp only [ofRatio, hn.ne', if_false, hplace, hround]

theorem pack_of_lt (negative : Bool) (hm : m < 2 ^ 53) (he : e ≤ 971) :
    pack negative m e = .finite negative m e := by
  rw [pack, twoTo_eq, if_neg hm.ne]
  exact if_neg (by omega)

theorem pack_carry (negative : Bool) (he : e < 971) :
    pack negative (2 ^ 53) e = .finite negative (2 ^ 52) (e + 1) := by
  rw [pack, twoTo_eq, twoTo_eq, if_pos rfl]
  exact if_neg (by omega)

/-- Just below the start of a binade the places are half as wide, and what is within half of such a
place is carried over. -/
theorem ofRatio_below_binade (hn : 0 < n) (hd : 0 < d) (hmin : -1074 < e) (hmax : e ≤ 971)
    (hlow : ((2 : ℚ) ^ 52 - 1 / 4) * 2 ^ e ≤ n / d) (hhigh : (n : ℚ) / d < 2 ^ 52 * 2 ^ e)
    (negative : Bool) : ofRatio negative n d = .finite negative (2 ^ 52) e := by
  have hpos : (0 : ℚ) < 2 ^ (e - 1) := by positivity
  have hhalf : (2 : ℚ) ^ e = 2 * 2 ^ (e - 1) := by
    rw [show e = (e - 1) + (1 : Nat) by omega, two_zpow_add]
    norm_num
  rw [hhalf] at hlow hhigh
  have hplace : lastPlace n d = e - 1 := by
    apply lastPlace_eq hn hd (by omega)
    · right
      rw [show e - 1 + 52 = e - 1 + (52 : Nat) from rfl, two_zpow_add]
      linarith
    · rw [show e - 1 + 53 = e - 1 + (53 : Nat) from rfl, two_zpow_add]
      linarith
  have hround : roundDiv (scale n d (-(e - 1))).1 (scale n d (-(e - 1))).2 = 2 ^ 53 := by
    apply roundDiv_scale_eq hd
    · push_cast
      linarith
    · push_cast
      linarith
    · intro h
      norm_num at h
  rw [ofRatio_eq_pack hn hplace hround, pack_carry negative (by omega), sub_add_cancel]

/-- What is nearest to a number is rounded to it. -/
theorem ofRatio_of_isNearest (hc : IsCanonical m e) (hn : 0 < n) (hd : 0 < d)
    (hq : IsNearest m e (n / d)) (negative : Bool) : ofRatio negative n d = .finite negative m e := by
  have h2 : (0 : ℚ) < 2 ^ e := by positivity
  have hlow : ((m : ℚ) - 1 / 2) * 2 ^ e ≤ n / d := by
    refine le_trans ?_ hq.low
    have := reachDown_le m e
    gcongr
  have hm : (m : ℚ) + 1 ≤ 2 ^ 53 := by exact_mod_cast hc.lt
  have hbelow : (n : ℚ) / d < 2 ^ (e + 53) := by
    calc (n : ℚ) / d ≤ (m + 1 / 2) * 2 ^ e := hq.high
      _ < 2 ^ 53 * 2 ^ e := by gcongr; linarith
      _ = 2 ^ (e + 53) := (two_zpow_add e 53).symm
  by_cases hbinade : e = -1074 ∨ (2 : ℚ) ^ (e + 52) ≤ n / d
  · have hround := roundDiv_scale_eq hd hlow hq.high hq.odd
    rw [ofRatio_eq_pack hn (lastPlace_eq hn hd hc.low hbinade hbelow) hround,
      pack_of_lt negative hc.lt hc.high]
  · -- only the start of a binade has numbers of the binade below nearest to it
    obtain ⟨he, hlt⟩ := not_or.1 hbinade
    rw [not_le, show e + 52 = e + (52 : Nat) from rfl, two_zpow_add] at hlt
    have hmin : -1074 < e := lt_of_le_of_ne hc.low (Ne.symm he)
    obtain rfl : m = 2 ^ 52 := by
      have hge : 2 ^ 52 ≤ m := hc.normal.resolve_right he
      have hle : (m : ℚ) - 1 / 2 < 2 ^ 52 := lt_of_mul_lt_mul_right (hlow.trans_lt hlt) h2.le
      have : (m : ℚ) < ((2 ^ 52 + 1 : Nat) : ℚ) := by push_cast; linarith
      have := Nat.cast_lt.1 this
      omega
    have hnear := hq.low
    rw [reachDown, if_pos ⟨rfl, hmin⟩] at hnear
    push_cast at hnear
    exact ofRatio_below_binade hn hd hmin hc.high hnear hlt negative

theorem toDigits_bounds (hn : 0 < n) :
    10 ^ ((Nat.toDigits 10 n).length - 1) ≤ n ∧ n < 10 ^ (Nat.toDigits 10 n).length := by
  refine ⟨?_, (Nat.length_toDigits_le_iff (by norm_num) Nat.length_toDigits_pos).1 le_rfl⟩
  by_cases hlen : 0 < (Nat.toDigits 10 n).length - 1
  · have := (Nat.length_toDigits_le_iff (b := 10) (n := n) (by norm_num) hlen).not
    omega
  · rw [show (Nat.toDigits 10 n).length - 1 = 0 by omega]
    omega

theorem ten_zpow_bounds (hn : 0 < n) (k : Int) :
    (10 : ℚ) ^ ((Nat.toDigits 10 n).length + k - 1) ≤ n * 10 ^ k ∧
      (n : ℚ) * 10 ^ k < 10 ^ ((Nat.toDigits 10 n).length + k) := by
  obtain ⟨hlow, hhigh⟩ := toDigits_bounds hn
  have hlen : 0 < (Nat.toDigits 10 n).length := Nat.length_toDigits_pos
  generalize (Nat.toDigits 10 n).length = l at *
  have h10 : (10 : ℚ) ≠ 0 := by norm_num
  constructor
  · rw [show (l : Int) + k - 1 = ((l - 1 : Nat) : Int) + k by omega, zpow_add₀ h10, zpow_natCast]
    gcongr
    exact_mod_cast hlow
  · rw [zpow_add₀ h10, zpow_natCast]
    gcongr
    exact_mod_cast hhigh

theorem two_pow_le_ten_pow : (2 : ℚ) ^ 1075 ≤ 10 ^ 325 := by
  calc (2 : ℚ) ^ 1075 = (2 ^ 43) ^ 25 := by rw [← pow_mul]
    _ ≤ (10 ^ 13) ^ 25 := by gcongr; norm_num
    _ = 10 ^ 325 := by rw [← pow_mul]

theorem two_pow_lt_ten_pow : (2 : ℚ) ^ 1024 < 10 ^ 309 := by
  calc (2 : ℚ) ^ 1024 = (2 ^ 93) ^ 11 * 2 := by rw [← pow_mul, ← pow_succ]
    _ < (10 ^ 28) ^ 11 * 10 := by gcongr <;> norm_num
    _ = 10 ^ 309 := by rw [← pow_mul, ← pow_succ]

/-- What is nearest to a finite number has few places before the point. -/
theorem IsNearest.lt_ten_zpow {q : ℚ} (hq : IsNearest m e q) (hc : IsCanonical m e) :
    q < 10 ^ (309 : Int) := by
  have hm : (m : ℚ) + 1 ≤ 2 ^ 53 := by exact_mod_cast hc.lt
  calc q ≤ (m + 1 / 2) * 2 ^ e := hq.high
    _ ≤ 2 ^ 53 * 2 ^ (971 : Int) := by
        gcongr
        · linarith
        · norm_num
        · exact hc.high
    _ = 2 ^ 1024 := by
        rw [show ((971 : Int)) = ((971 : Nat) : Int) from rfl, zpow_natCast, ← pow_add]
    _ < 10 ^ 309 := two_pow_lt_ten_pow
    _ = 10 ^ (309 : Int) := rfl

/-- What is nearest to a positive number has few zeros after the point. -/
theorem IsNearest.ten_zpow_le {q : ℚ} (hq : IsNearest m e q) (hc : IsCanonical m e) (hm : 0 < m) :
    10 ^ (-325 : Int) ≤ q := by
  have hm' : (1 : ℚ) ≤ m := by exact_mod_cast hm
  calc (10 : ℚ) ^ (-325 : Int) = (10 ^ 325)⁻¹ := rfl
    _ ≤ (2 ^ 1075)⁻¹ := by
        gcongr
        exact two_pow_le_ten_pow
    _ = (1 - 1 / 2) * 2 ^ (-1074 : Int) := by
        rw [show (-1074 : Int) = -((1074 : Nat) : Int) from rfl, zpow_neg, zpow_natCast, pow_succ,
          mul_inv, mul_comm]
        norm_num only
    _ ≤ (m - reachDown m e) * 2 ^ e := by
        have := reachDown_le m e
        gcongr
        · linarith
        · norm_num
        · exact hc.low
    _ ≤ q := hq.low

theorem IsNearest.digits_pos {k : Int} (hq : IsNearest m e (n * 10 ^ k)) (hc : IsCanonical m e)
    (hm : 0 < m) : 0 < n := by
  by_contra hn
  have hlow := hq.ten_zpow_le hc hm
  rw [Nat.eq_zero_of_not_pos hn, Nat.cast_zero, zero_mul] at hlow
  exact absurd hlow (not_le.2 (by positivity))

/-- A decimal that is nearest to a number is rounded to it. -/
theorem ofDecimal_of_isNearest {k : Int} (hc : IsCanonical m e) (hm : 0 < m)
    (hq : IsNearest m e (n * 10 ^ k)) (negative : Bool) :
    ofDecimal negative n k = .finite negative m e := by
  have hn := hq.digits_pos hc hm
  obtain ⟨hlow, hhigh⟩ := ten_zpow_bounds hn k
  have hmono {a b : Int} (h : (10 : ℚ) ^ a < 10 ^ b) : a < b :=
    (zpow_lt_zpow_iff_right₀ (by norm_num)).1 h
  have hplaces : (Nat.toDigits 10 n).length + k - 1 < 309 := hmono (hlow.trans_lt (hq.lt_ten_zpow hc))
  have hzeros : -325 < (Nat.toDigits 10 n).length + k := hmono ((hq.ten_zpow_le hc hm).trans_lt hhigh)
  unfold ofDecimal
  dsimp only
  rw [if_neg (by simp; omega), if_neg (by omega)]
  split
  next hk =>
    apply ofRatio_of_isNearest hc hn (tenTo_pos _)
    rwa [tenTo_eq, Nat.cast_pow, Nat.cast_ofNat, div_eq_mul_inv, ← zpow_natAbs_of_neg 10 hk]
  next hk =>
    apply ofRatio_of_isNearest hc (Nat.mul_pos hn (tenTo_pos _)) Nat.one_pos
    rwa [tenTo_eq, Nat.cast_mul, Nat.cast_pow, Nat.cast_ofNat, ← zpow_natAbs_of_nonneg 10 hk,
      Nat.cast_one, div_one]

end MarkupCensus.Binary64
