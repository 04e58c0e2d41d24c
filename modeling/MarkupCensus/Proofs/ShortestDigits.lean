import MarkupCensus.Number.Shortest
import MarkupCensus.Proofs.Rounding

namespace MarkupCensus.Shortest

open Binary64

variable {m : Nat} {e k : Int}

/-- Aligning multiplies both numbers by the same positive factor. -/
theorem align_spec (a : Nat) (k : Int) (b : Nat) (e : Int) :
    ∃ x : ℚ, 0 < x ∧ ((align a k b e).1 : ℚ) = a * 10 ^ k * x ∧
      ((align a k b e).2 : ℚ) = b * 2 ^ e * x := by
  unfold align
  by_cases hk : k < 0 <;> by_cases he : e < 0
  · refine ⟨10 ^ k.natAbs * 2 ^ e.natAbs, by positivity, ?_⟩
    simp only [hk, he, if_true, twoTo_eq, tenTo_eq, zpow_natAbs_of_neg, Nat.cast_mul, Nat.cast_pow,
      Nat.cast_ofNat]
    constructor <;> field_simp
  · refine ⟨10 ^ k.natAbs, by positivity, ?_⟩
    simp only [hk, he, if_true, if_false, twoTo_eq, tenTo_eq, zpow_natAbs_of_neg,
      zpow_natAbs_of_nonneg, not_false_eq_true, Nat.cast_mul, Nat.cast_pow, Nat.cast_ofNat]
    constructor <;> field_simp
  · refine ⟨2 ^ e.natAbs, by positivity, ?_⟩
    simp only [hk, he, if_true, if_false, twoTo_eq, tenTo_eq, zpow_natAbs_of_neg,
      zpow_natAbs_of_nonneg, not_false_eq_true, Nat.cast_mul, Nat.cast_pow, Nat.cast_ofNat]
    exact ⟨trivial, by field_simp⟩
  · refine ⟨1, one_pos, ?_⟩
    simp [hk, he, twoTo_eq, tenTo_eq, zpow_natAbs_of_nonneg]

theorem align_le_iff (a : Nat) (k : Int) (b : Nat) (e : Int) :
    (align a k b e).1 ≤ (align a k b e).2 ↔ (a : ℚ) * 10 ^ k ≤ b * 2 ^ e := by
  obtain ⟨x, hx, ha, hb⟩ := align_spec a k b e
  rw [← Nat.cast_le (α := ℚ), ha, hb, mul_le_mul_iff_left₀ hx]

theorem align_ge_iff (a : Nat) (k : Int) (b : Nat) (e : Int) :
    (align a k b e).2 ≤ (align a k b e).1 ↔ (b : ℚ) * 2 ^ e ≤ a * 10 ^ k := by
  obtain ⟨x, hx, ha, hb⟩ := align_spec a k b e
  rw [← Nat.cast_le (α := ℚ), ha, hb, mul_le_mul_iff_left₀ hx]

/-- Whether a decimal lies in an interval, as a statement about rationals. -/
theorem holds_iff (i : Interval) (e : Int) (c : Nat) (k : Int) : i.holds e c k = true ↔
    if i.closed then (i.low : ℚ) * 2 ^ e ≤ c * 10 ^ k ∧ (c : ℚ) * 10 ^ k ≤ i.high * 2 ^ e
    else (i.low : ℚ) * 2 ^ e < c * 10 ^ k ∧ (c : ℚ) * 10 ^ k < i.high * 2 ^ e := by
  unfold Interval.holds
  cases i.closed with
  | true => simp [align_le_iff, align_ge_iff]
  | false =>
    simp only [Bool.false_eq_true, if_false, Bool.and_eq_true, decide_eq_true_eq, ← not_le,
      align_le_iff, align_ge_iff]

/-- The multiple of a power of ten below the middle of an interval, and the next one above. -/
theorem floor_spec (i : Interval) (e k : Int) :
    let c := (align 1 k i.middle e).2 / (align 1 k i.middle e).1
    (c : ℚ) * 10 ^ k ≤ i.middle * 2 ^ e ∧ (i.middle : ℚ) * 2 ^ e < (c + 1 : Nat) * 10 ^ k := by
  intro c
  obtain ⟨x, hx, ha, hb⟩ := align_spec 1 k i.middle e
  have hone : (0 : ℚ) < 10 ^ k * x := by positivity
  rw [Nat.cast_one, one_mul] at ha
  have hpos : 0 < (align 1 k i.middle e).1 := by
    rw [← Nat.cast_pos (α := ℚ), ha]
    exact hone
  have hlow : (align 1 k i.middle e).1 * c ≤ (align 1 k i.middle e).2 := Nat.mul_div_le _ _
  have hhigh : (align 1 k i.middle e).2 < (align 1 k i.middle e).1 * (c + 1) :=
    Nat.lt_mul_div_succ _ hpos
  rw [← Nat.cast_le (α := ℚ), Nat.cast_mul, ha, hb] at hlow
  rw [← Nat.cast_lt (α := ℚ), Nat.cast_mul, ha, hb] at hhigh
  constructor
  · apply le_of_mul_le_mul_right _ hx
    linarith
  · apply lt_of_mul_lt_mul_right _ hx.le
    linarith

theorem two_zpow_eq (e : Int) : (2 : ℚ) ^ e = 4 * 2 ^ (e - 2) := by
  have h := two_zpow_add (e - 2) 2
  rw [Nat.cast_ofNat, sub_add_cancel] at h
  rw [h]
  norm_num

theorem interval_low (hm : 0 < m) (e : Int) :
    ((interval m e).low : ℚ) * 2 ^ (e - 2) = (m - reachDown m e) * 2 ^ e := by
  rw [two_zpow_eq e]
  by_cases hstart : m = 2 ^ 52 ∧ -1074 < e
  · have hl : (interval m e).low = 4 * m - 1 := by simp [interval, twoTo_eq, hstart]
    rw [hl, reachDown, if_pos hstart, Nat.cast_sub (by omega)]
    push_cast
    linarith
  · have hl : (interval m e).low = 4 * m - 2 := by
      have hmark : ¬ (m = twoTo 52 && decide (-1074 < e)) = true := by
        rw [Bool.and_eq_true, decide_eq_true_eq, decide_eq_true_eq]
        exact hstart
      rw [interval, if_neg hmark]
    rw [hl, reachDown, if_neg hstart, Nat.cast_sub (by omega)]
    push_cast
    linarith

theorem interval_high (m : Nat) (e : Int) :
    ((interval m e).high : ℚ) * 2 ^ (e - 2) = (m + 1 / 2) * 2 ^ e := by
  rw [two_zpow_eq e]
  simp only [interval]
  push_cast
  linarith

/-- A decimal in the interval of a number is nearest to the number. -/
theorem isNearest_of_holds {c : Nat} (hm : 0 < m) (h : (interval m e).holds (e - 2) c k = true) :
    IsNearest m e (c * 10 ^ k) := by
  rw [holds_iff, interval_low hm, interval_high] at h
  split at h
  next hclosed =>
    refine ⟨h.1, h.2, fun hodd => ?_⟩
    simp [interval] at hclosed
    omega
  next hopen =>
    refine ⟨h.1.le, h.2.le, fun hodd => ⟨?_, h.2⟩⟩
    have hreach : reachDown m e = 1 / 2 := by
      unfold reachDown
      rw [if_neg]
      rintro ⟨rfl, -⟩
      norm_num at hodd
    rw [← hreach]
    exact h.1

theorem holds_of_pick {i : Interval} {c : Nat} (h : i.pick e k = some c) : i.holds e c k = true := by
  unfold Interval.pick at h
  dsimp only at h
  split at h
  · cases h
  next hc _ =>
    cases h
    exact hc
  next hc =>
    cases h
    exact hc
  next hc hc' =>
    cases h
    split_ifs
    · exact hc
    · exact hc'
    · rcases Nat.mod_two_eq_zero_or_one ((align 1 k i.middle e).2 / (align 1 k i.middle e).1) with h | h
      · rw [h]
        exact hc
      · rw [h]
        exact hc'

/-- An interval that is longer than a power of ten holds one of its multiples next to the middle. -/
theorem exists_pick {i : Interval} (hlow : i.low < i.middle) (hhigh : i.middle < i.high)
    (hlen : (10 : ℚ) ^ k < (i.high - i.low) * 2 ^ e) : ∃ c, i.pick e k = some c := by
  by_contra hnone
  obtain ⟨hc, hc'⟩ := floor_spec i e k
  have h2 : (0 : ℚ) < 2 ^ e := by positivity
  have hlow' : (i.low : ℚ) * 2 ^ e < i.middle * 2 ^ e := by gcongr
  have hhigh' : (i.middle : ℚ) * 2 ^ e < i.high * 2 ^ e := by gcongr
  unfold Interval.pick at hnone
  dsimp only at hnone hc hc'
  generalize (align 1 k i.middle e).2 / (align 1 k i.middle e).1 = c at *
  have hfalse : i.holds e c k = false ∧ i.holds e (c + 1) k = false := by
    cases h : i.holds e c k <;> cases h' : i.holds e (c + 1) k <;> simp_all
  rw [← Bool.not_eq_true, ← Bool.not_eq_true, holds_iff, holds_iff] at hfalse
  -- the multiple below the middle is too low, and the one above is too high
  have hbelow : (c : ℚ) * 10 ^ k ≤ i.low * 2 ^ e := by
    by_contra h
    apply hfalse.1
    split
    · exact ⟨by linarith, by linarith⟩
    · exact ⟨by linarith, by linarith⟩
  have habove : (i.high : ℚ) * 2 ^ e ≤ (c + 1 : Nat) * 10 ^ k := by
    by_contra h
    apply hfalse.2
    split
    · exact ⟨by linarith, by linarith⟩
    · exact ⟨by linarith, by linarith⟩
  push_cast at habove
  linarith

/-- The number `m · 2 ^ e` with four hundred decimal places, cut off. -/
def scaled (m : Nat) (e : Int) : Nat :=
  if e < 0 then m * tenTo 400 / twoTo e.natAbs else m * twoTo e.natAbs * tenTo 400

theorem scaled_pos (hm : 0 < m) (he : -1074 ≤ e) : 0 < scaled m e := by
  unfold scaled
  split
  · apply Nat.div_pos _ (twoTo_pos _)
    have hmono {a b : Nat} (h : a ≤ b) : tenTo a ≤ tenTo b := Nat.pow_le_pow_right (by norm_num) h
    have hten : 2 ^ 1075 ≤ tenTo 325 := by
      rw [tenTo_eq]
      exact_mod_cast two_pow_le_ten_pow
    calc twoTo e.natAbs ≤ 2 ^ 1075 := Nat.pow_le_pow_right (by norm_num) (by omega)
      _ ≤ tenTo 325 := hten
      _ ≤ tenTo 400 := hmono (by norm_num)
      _ ≤ m * tenTo 400 := Nat.le_mul_of_pos_left _ hm
  · exact Nat.mul_pos (Nat.mul_pos hm (twoTo_pos _)) (tenTo_pos _)

theorem scaled_le (m : Nat) (e : Int) : (scaled m e : ℚ) ≤ m * 2 ^ e * 10 ^ 400 := by
  unfold scaled
  split
  next he =>
    refine Nat.cast_div_le.trans (le_of_eq ?_)
    rw [zpow_natAbs_of_neg 2 he, twoTo_eq, tenTo_eq, Nat.cast_mul, Nat.cast_pow, Nat.cast_pow,
      Nat.cast_ofNat, Nat.cast_ofNat, div_eq_mul_inv]
    exact mul_right_comm _ _ _
  next he =>
    rw [zpow_natAbs_of_nonneg 2 he, twoTo_eq, tenTo_eq, Nat.cast_mul, Nat.cast_mul, Nat.cast_pow,
      Nat.cast_pow, Nat.cast_ofNat, Nat.cast_ofNat]

theorem ten_zpow_floorLog10_le (hm : 0 < m) (he : -1074 ≤ e) :
    (10 : ℚ) ^ floorLog10 m e ≤ m * 2 ^ e := by
  obtain ⟨hlow, -⟩ := ten_zpow_bounds (scaled_pos hm he) (-400)
  have hlog : floorLog10 m e = (Nat.toDigits 10 (scaled m e)).length + -400 - 1 := by
    change ((Nat.toDigits 10 (scaled m e)).length : Int) - 401 = _
    omega
  rw [hlog]
  refine hlow.trans ?_
  rw [zpow_neg, ← div_eq_mul_inv, div_le_iff₀ (by positivity)]
  exact scaled_le m e

/-- Seventeen digits are enough to tell a number from its neighbours. -/
theorem exists_pick_seventeen (hc : IsCanonical m e) (hm : 0 < m) :
    ∃ c, (interval m e).pick (e - 2) (floorLog10 m e - 16) = some c := by
  have hlow := interval_low hm e
  have hhigh := interval_high m e
  have h2 : (0 : ℚ) < 2 ^ e := by positivity
  -- 2 ^ 53 < 10 ^ 16, and the start of a binade, which reaches less far down, is only 2 ^ 52
  have hm' : (m : ℚ) < (1 / 2 + reachDown m e) * 10 ^ 16 := by
    unfold reachDown
    split
    next hstart =>
      rw [hstart.1]
      norm_num
    next =>
      have hlt : (m : ℚ) < 2 ^ 53 := by exact_mod_cast hc.lt
      norm_num at hlt ⊢
      linarith
  apply exists_pick
  · simp only [interval]
    split <;> omega
  · simp [interval]
  · have hten : (10 : ℚ) ^ (floorLog10 m e - 16) * 10 ^ 16 ≤ m * 2 ^ e := by
      rw [← zpow_natCast, ← zpow_add₀ (by norm_num), Nat.cast_ofNat, sub_add_cancel]
      exact ten_zpow_floorLog10_le hm hc.low
    have hlt : (m : ℚ) * 2 ^ e < (1 / 2 + reachDown m e) * 10 ^ 16 * 2 ^ e := by gcongr
    rw [sub_mul, hlow, hhigh]
    linarith

/-- The decimal that a number is written by is nearest to it. -/
theorem decimal_isNearest (hc : IsCanonical m e) (hm : 0 < m) :
    IsNearest m e ((decimal m e).digits * 10 ^ (decimal m e).exponent) := by
  unfold decimal
  dsimp only
  split
  next d hd =>
    obtain ⟨k, -, hk⟩ := List.exists_of_findSome?_eq_some hd
    obtain ⟨c, hpick, rfl⟩ := Option.map_eq_some_iff.1 hk
    exact isNearest_of_holds hm (holds_of_pick hpick)
  next hnone =>
    obtain ⟨c, hpick⟩ := exists_pick_seventeen hc hm
    have := List.findSome?_eq_none_iff.1 hnone (floorLog10 m e - 16)
      (List.mem_map.2 ⟨16, by simp, by simp⟩)
    simp [hpick] at this

end MarkupCensus.Shortest
