import MarkupCensus.Proofs.Positional
import MarkupCensus.Proofs.Rounding

namespace MarkupCensus

namespace Binary64

variable {m n v : Nat} {e k : Int}

theorem isNearest_self (m : Nat) (e : Int) : IsNearest m e (m * 2 ^ e) := by
  have h2 : (0 : ℚ) < 2 ^ e := by positivity
  refine ⟨?_, ?_, ?_⟩
  · have hreach : 0 ≤ reachDown m e := by
      unfold reachDown
      split <;> norm_num
    gcongr
    linarith
  · gcongr
    linarith
  · intro _
    constructor
    · gcongr
      linarith
    · gcongr
      linarith

/-- Below `2 ^ 53` an integer has its first bit at the head of a mantissa, and zeros after its last. -/
theorem isCanonical_shifted (hv : 0 < v) (h : v < 2 ^ 53) :
    IsCanonical (v * 2 ^ (52 - v.log2)) (-((52 - v.log2 : Nat) : Int)) := by
  have hlog : v.log2 < 53 := (Nat.log2_lt hv.ne').2 h
  constructor
  · calc v * 2 ^ (52 - v.log2) < 2 ^ (v.log2 + 1) * 2 ^ (52 - v.log2) := by
          gcongr
          exact Nat.lt_log2_self
      _ = 2 ^ 53 := by
          rw [← pow_add]
          congr 1
          omega
  · omega
  · omega
  · left
    calc 2 ^ 52 = 2 ^ v.log2 * 2 ^ (52 - v.log2) := by
          rw [← pow_add]
          congr 1
          omega
      _ ≤ v * 2 ^ (52 - v.log2) := by
          gcongr
          exact Nat.log2_self_le hv.ne'

theorem toInt?_shifted (v k : Nat) : toInt? (.finite false (v * 2 ^ k) (-(k : Int))) = some v := by
  have hscale : (scale (v * 2 ^ k) 1 (-(k : Int))) = (v * 2 ^ k, 2 ^ k) := by
    unfold scale
    split
    · simp [twoTo_eq]
    · obtain rfl : k = 0 := by omega
      simp [twoTo_eq]
  simp [toInt?, hscale]

theorem toInt?_zero : toInt? (.finite false 0 (-1074)) = some 0 := by
  simp [toInt?, scale]

/-- A decimal that is an integer of at most 53 bits is read as that integer. -/
theorem toInt?_ofDecimal (hv : (n : ℚ) * 10 ^ k = v) (h : v < 2 ^ 53) :
    (ofDecimal false n k).toInt? = some v := by
  rcases Nat.eq_zero_or_pos v with rfl | hpos
  · have h10 : (10 : ℚ) ^ k ≠ 0 := by positivity
    obtain rfl : n = 0 := by simpa [h10] using hv
    exact toInt?_zero
  · -- the integer is a number of the format itself, and so the nearest to itself
    have hvalue : ((v * 2 ^ (52 - v.log2) : Nat) : ℚ) * 2 ^ (-((52 - v.log2 : Nat) : Int)) = v := by
      rw [zpow_neg, zpow_natCast]
      push_cast
      field_simp
    have hnear := isNearest_self (v * 2 ^ (52 - v.log2)) (-((52 - v.log2 : Nat) : Int))
    rw [hvalue, ← hv] at hnear
    rw [ofDecimal_of_isNearest (isCanonical_shifted hpos h) (by positivity) hnear, toInt?_shifted]

/-- A whole mantissa with zeros after it is too large for an integer. -/
theorem ofBinary64_finite (negative : Bool) (hm : 2 ^ 52 ≤ m) (he : 0 < e) :
    Numeral.ofBinary64 (.finite negative m e) = .real (.finite negative m e) := by
  have hscale : scale m 1 e = (m * 2 ^ e.natAbs, 1) := by
    rw [scale, if_neg (by omega), twoTo_eq]
  have hlarge : 2 ^ 53 ≤ m * 2 ^ e.natAbs := by
    calc 2 ^ 53 = 2 ^ 52 * 2 ^ 1 := rfl
      _ ≤ m * 2 ^ e.natAbs := by
          gcongr
          · norm_num
          · omega
  have hint : toInt? (.finite negative m e) =
      some (if negative then -((m * 2 ^ e.natAbs : Nat) : Int) else (m * 2 ^ e.natAbs : Nat)) := by
    simp only [toInt?, hscale, Nat.mod_one, if_true, Nat.div_one]
  have habs : ¬(if negative then -((m * 2 ^ e.natAbs : Nat) : Int)
      else (m * 2 ^ e.natAbs : Nat)).natAbs < twoTo 53 := by
    rw [twoTo_eq]
    split <;> omega
  simp only [Numeral.ofBinary64, hint, habs, if_false]

theorem ofBinary64_pack (negative : Bool) (hm : 2 ^ 52 ≤ m) (he : 0 < e) :
    Numeral.ofBinary64 (pack negative m e) = .real (pack negative m e) := by
  have hcases : ∀ m' e', 2 ^ 52 ≤ m' → 0 < e' →
      Numeral.ofBinary64 (if 971 < e' then .infinite negative else .finite negative m' e') =
        .real (if 971 < e' then .infinite negative else .finite negative m' e') := by
    intro m' e' hm' he'
    split
    · rfl
    · exact ofBinary64_finite negative hm' he'
  unfold pack
  by_cases hcarry : m = twoTo 53
  · simp only [hcarry, if_true]
    exact hcases _ _ le_rfl (by omega)
  · simp only [hcarry, if_false]
    exact hcases _ _ hm he

/-- The last place of an integer beyond 53 bits is not the units, and its mantissa is a whole one. -/
theorem exists_ofRatio_eq_pack (negative : Bool) (h : 2 ^ 53 ≤ v) :
    ∃ m e, 2 ^ 52 ≤ m ∧ 0 < e ∧ ofRatio negative v 1 = pack negative m e := by
  have hv : 0 < v := lt_of_lt_of_le (by norm_num) h
  have hv' : (2 : ℚ) ^ (53 : Int) ≤ v := by exact_mod_cast h
  obtain ⟨-, hhigh, hlow⟩ := lastPlace_spec hv Nat.one_pos
  generalize hplace : lastPlace v 1 = e at hhigh hlow
  rw [Nat.cast_one, div_one] at hhigh hlow
  -- 53 bits from a last place at the units or below do not reach up to the integer
  have he : 0 < e := by
    have := (zpow_lt_zpow_iff_right₀ (by norm_num)).1 (hv'.trans_lt hhigh)
    omega
  have hscale : scale v 1 (-e) = (v, 2 ^ e.natAbs) := by
    rw [scale, if_pos (by omega), Nat.one_mul, Int.natAbs_neg, twoTo_eq]
  have hmul : 2 ^ 52 * 2 ^ e.natAbs ≤ v := by
    have hreach := hlow (by omega)
    rw [show e + 52 = e + (52 : Nat) from rfl, two_zpow_add,
      zpow_natAbs_of_nonneg 2 (by omega)] at hreach
    exact_mod_cast hreach
  have hround : 2 ^ 52 ≤ roundDiv v (2 ^ e.natAbs) :=
    ((Nat.le_div_iff_mul_le (Nat.two_pow_pos _)).2 hmul).trans (div_le_roundDiv _ _)
  exact ⟨_, e, hround, he, ofRatio_eq_pack hv hplace (by rw [hscale]) negative⟩

/-- From `2 ^ 53` on, an integer in decimal digits is kept as the nearest binary64 number. -/
theorem ofBinary64_ofDecimal (h : 2 ^ 53 ≤ v) :
    Numeral.ofBinary64 (ofDecimal false v 0) = .real (ofDecimal false v 0) := by
  have hplaces : ¬(((Nat.toDigits 10 v).length : Int) + 0 < -330) := by omega
  have hv : v ≠ 0 := by
    rintro rfl
    norm_num at h
  obtain ⟨m, e, hm, he, hpack⟩ := exists_ofRatio_eq_pack false h
  unfold ofDecimal
  simp only [hv, hplaces, decide_false, Bool.or_false, Bool.false_eq_true, if_false, tenTo_eq]
  split
  · rfl
  · simp only [Int.natAbs_zero, pow_zero, Nat.mul_one, hpack, lt_self_iff_false, if_false]
    exact ofBinary64_pack false hm he

end Binary64

namespace Numeral

/-- Digits that are read as an octal number without a mark: a zero and at least one more digit, with
or without low lines among them. -/
def IsLegacyOctal (text : List Char) : Prop :=
  ∃ ds, text.filter (· != '_') = '0' :: ds ∧ ds ≠ [] ∧ ∀ d ∈ ds, isDigitOf 8 d = true

/-- The number that a decimal numeral without its exponent denotes: its digits, with the point put back
in its place. -/
def mantissa (cs : List Char) : ℚ := denoted 10 cs / 10 ^ places cs

/-- The exact number that a decimal literal denotes. -/
inductive Denotes : List Char → ℚ → Prop
  | decimal {cs : List Char} (hc : Decimal cs) : Denotes cs (mantissa cs)
  | scientific {cs sign ds : List Char} {letter : Char} (hc : Decimal cs)
    (hl : letter = 'e' ∨ letter = 'E') (hs : sign = [] ∨ sign = ['+'] ∨ sign = ['-'])
    (hd : Separated 10 ds) : Denotes (cs ++ letter :: (sign ++ ds))
      (mantissa cs * 10 ^ if sign = ['-'] then -(denoted 10 ds : Int) else denoted 10 ds)

/-- The literals of big integers. The decimal ones do not start with a zero, but for zero itself. -/
inductive BigInteger : List Char → Bool → Nat → Prop
  | decimal {ds : List Char} (hd : Separated 10 ds) (hzero : ds = ['0'] ∨ ds.head? ≠ some '0') :
    BigInteger (ds ++ ['n']) false (denoted 10 ds)
  | marked {m : Char} {base : Nat} {ds : List Char} (hm : baseOfMark m = some base)
    (hd : Separated base ds) : BigInteger ('0' :: m :: ds ++ ['n']) true (denoted base ds)

/-- Whether a big integer is read exactly: its base is marked, or 53 bits hold it. -/
def IsExact (marked : Bool) (v : Nat) : Prop := marked = true ∨ v < 2 ^ 53

section Values

variable {base v : Nat} {m : Char} {text ds : List Char} {q : ℚ}

theorem value_marked (hm : baseOfMark m = some base) (hd : IsRun base ds) :
    value ('0' :: m :: ds) = .ok (.int (denoted base ds)) ∧
      value ('0' :: m :: ds ++ ['n']) = .ok (.int (denoted base ds)) := by
  have hpart := isPart_of_mem_marked hm hd
  rw [← ofDigits_filterMap]
  exact ⟨value_of_marked hm hd (normalize_eq_clean hpart),
    value_of_marked hm hd (normalize_append_suffix hpart)⟩

theorem isLegacyOctal_iff {cs : List Char} : isLegacyOctal cs = true ↔
    ∃ ds, cs = '0' :: ds ∧ ds ≠ [] ∧ ∀ d ∈ ds, ('0' ≤ d && d ≤ '7') = true := by
  constructor
  · intro h
    unfold isLegacyOctal at h
    split at h
    · next d ds => exact ⟨d :: ds, rfl, List.cons_ne_nil d ds, List.all_eq_true.1 h⟩
    · cases h
  · rintro ⟨ds, rfl, hne, hd⟩
    obtain ⟨d, ds, rfl⟩ := List.exists_cons_of_ne_nil hne
    exact List.all_eq_true.2 hd

/-- Digits have no case. -/
theorem toLower_digit {c : Char} (h : isPart c = true) :
    (c.toLower = '0' ↔ c = '0') ∧ ('0' ≤ c.toLower && c.toLower ≤ '7') = isDigitOf 8 c :=
  forall_ascii (P := fun c => (c.toLower = '0' ↔ c = '0') ∧
    ('0' ≤ c.toLower && c.toLower ≤ '7') = isDigitOf 8 c) (by decide +kernel) (lt_of_isPart h)

theorem isLegacyOctal_clean_iff (h : ∀ c ∈ text, isPart c = true) :
    isLegacyOctal (clean text) = true ↔ IsLegacyOctal text := by
  have hpart : ∀ c ∈ text.filter (· != '_'), isPart c = true := fun c hc =>
    h c (List.mem_filter.1 hc).1
  rw [isLegacyOctal_iff, IsLegacyOctal, clean]
  generalize text.filter (· != '_') = cs at hpart
  constructor
  · rintro ⟨es, hes, hne, hd⟩
    obtain ⟨c, ds, rfl, hc, rfl⟩ := List.map_eq_cons_iff.1 hes
    obtain rfl := (toLower_digit (hpart c List.mem_cons_self)).1.1 hc
    refine ⟨ds, rfl, by simpa using hne, ?_⟩
    intro d hmem
    rw [← (toLower_digit (hpart d (List.mem_cons_of_mem _ hmem))).2]
    exact hd _ (List.mem_map_of_mem hmem)
  · rintro ⟨ds, rfl, hne, hd⟩
    refine ⟨ds.map Char.toLower, rfl, by simpa using hne, ?_⟩
    simp only [List.forall_mem_map]
    intro d hmem
    rw [(toLower_digit (hpart d (List.mem_cons_of_mem _ hmem))).2]
    exact hd d hmem

theorem IsLegacyOctal.digits (h : IsLegacyOctal text) :
    ∀ c ∈ text, isDigitOf 8 c = true ∨ c = '_' := by
  obtain ⟨ds, hds, -, hd⟩ := h
  intro c hc
  by_cases hne : c = '_'
  · exact Or.inr hne
  · left
    have hmem : c ∈ '0' :: ds := hds ▸ List.mem_filter.2 ⟨hc, bne_iff_ne.2 hne⟩
    rcases List.mem_cons.1 hmem with rfl | hmem
    · rfl
    · exact hd c hmem

/-- Octal digits without a mark are read as the number that they denote in base eight. -/
theorem IsLegacyOctal.value_eq (h : IsLegacyOctal text) :
    value text = .ok (.int (denoted 8 text)) := by
  have hpart := isPart_of_digits h.digits
  have hclean := (isLegacyOctal_clean_iff hpart).2 h
  have hbase := markedBase_clean (isDecimalPart_of_digits (by decide) h.digits)
  rw [value, normalize_eq_clean hpart, hbase]
  simp only [hclean, if_true, filterMap_clean hpart, ofDigits_filterMap]

theorem value_of_not_legacyOctal {cs es : List Char} {e : Int} (hc : Decimal cs)
    (ht : IsTail (clean es) e) (he : ∀ c ∈ es, isDecimalPart c = true)
    (hoctal : ¬IsLegacyOctal (cs ++ es)) : value (cs ++ es) =
      .ok (ofBinary64 (Binary64.ofDecimal false (denoted 10 cs) (e - places cs))) := by
  have hpart : ∀ c ∈ cs ++ es, isPart c = true := by
    intro c hmem
    exact isPart_of_isDecimalPart ((List.mem_append.1 hmem).elim (hc.isDecimalPart c) (he c))
  rw [value_of_decimal hc ht he (normalize_eq_clean hpart),
    if_neg (mt (isLegacyOctal_clean_iff hpart).1 hoctal), digitsValue, ofDigits_filterMap]

/-- A decimal literal is read by its exact number, unless it is read as an octal one. -/
theorem Denotes.value_eq (h : Denotes text q) (hoctal : ¬IsLegacyOctal text) :
    ∃ (n : Nat) (k : Int), (n : ℚ) * 10 ^ k = q ∧
      value text = .ok (ofBinary64 (Binary64.ofDecimal false n k)) := by
  cases h with
  | decimal hc =>
    refine ⟨denoted 10 text, 0 - places text, ?_, ?_⟩
    · rw [mantissa, zero_sub, zpow_neg, zpow_natCast, div_eq_mul_inv]
    · have hvalue := @value_of_not_legacyOctal text [] 0 hc .nil (by simp) (by simpa using hoctal)
      rwa [List.append_nil] at hvalue
  | @scientific cs sign ds letter hc hl hs hd =>
    have hparts := Exponent.isDecimalPart (.mk hl hs hd)
    have htail := IsTail.exponent hl hs hd
    rw [digitsValue, ofDigits_filterMap] at htail
    refine ⟨denoted 10 cs, _ - places cs, ?_, value_of_not_legacyOctal hc htail hparts hoctal⟩
    rw [mantissa, zpow_sub₀ (by norm_num), zpow_natCast]
    ring

/-- Digits that start with a zero only if they are that zero are no octal number. -/
theorem Separated.not_isLegacyOctal (hd : Separated 10 ds)
    (hzero : ds = ['0'] ∨ ds.head? ≠ some '0') : ¬IsLegacyOctal ds := by
  rintro ⟨es, hes, hne, -⟩
  -- the first digit is no low line, so dropping those leaves it at the head
  rcases hzero with rfl | hhead
  · have hnil : es = [] := by simpa using hes.symm
    exact hne hnil
  · obtain ⟨c, cs, rfl, hc⟩ : ∃ c cs, ds = c :: cs ∧ isDigitOf 10 c = true := by
      cases hd with
      | one hc => exact ⟨_, _, rfl, hc⟩
      | next hc => exact ⟨_, _, rfl, hc⟩
      | skip hc => exact ⟨_, _, rfl, hc⟩
    have hkept : (c != '_') = true := bne_iff_ne.2 (ne_separator hc)
    rw [List.filter_cons, if_pos hkept] at hes
    exact hhead (congrArg some (List.cons.inj hes).1)

/-- A big integer in decimal digits is read as the digits without the suffix are. -/
theorem value_big (hd : Separated 10 ds) (hzero : ds = ['0'] ∨ ds.head? ≠ some '0') :
    value (ds ++ ['n']) = .ok (ofBinary64 (Binary64.ofDecimal false (denoted 10 ds) 0)) := by
  have hn : normalize (ds ++ ['n']) = clean (ds ++ []) := by
    rw [normalize_append_suffix hd.isRun.isPart, List.append_nil]
  have hnil : IsTail (clean []) 0 := .nil
  have hoctal := mt (isLegacyOctal_clean_iff hd.isRun.isPart).1 (hd.not_isLegacyOctal hzero)
  rw [value_of_decimal (.whole hd) hnil (by simp) hn, List.append_nil, if_neg hoctal, digitsValue,
    ofDigits_filterMap, hd.places_eq_zero]
  rfl

theorem ofBinary64_of_lt {n : Nat} {k : Int} (hv : (n : ℚ) * 10 ^ k = v) (h : v < 2 ^ 53) :
    ofBinary64 (Binary64.ofDecimal false n k) = .int v := by
  rw [ofBinary64, Binary64.toInt?_ofDecimal hv h]
  exact if_pos h

theorem BigInteger.value_of_isExact {marked : Bool} (h : BigInteger text marked v)
    (he : IsExact marked v) : value text = .ok (.int v) := by
  cases h with
  | decimal hd hzero =>
    rw [value_big hd hzero, ofBinary64_of_lt (by simp) (he.resolve_left Bool.false_ne_true)]
  | marked hm hd => exact (value_marked hm hd.isRun).2

theorem BigInteger.value_of_not_isExact {marked : Bool} (h : BigInteger text marked v)
    (he : ¬IsExact marked v) : value text = .ok (.real (Binary64.ofDecimal false v 0)) := by
  cases h with
  | decimal hd hzero =>
    have hlarge : 2 ^ 53 ≤ denoted 10 _ := not_lt.1 fun hlt => he (Or.inr hlt)
    rw [value_big hd hzero, Binary64.ofBinary64_ofDecimal hlarge]
  | marked hm hd => exact absurd (Or.inl rfl) he

theorem Denotes.nonneg (h : Denotes text q) : 0 ≤ q := by
  cases h with
  | decimal => exact div_nonneg (Nat.cast_nonneg _) (by positivity)
  | scientific =>
    exact mul_nonneg (div_nonneg (Nat.cast_nonneg _) (by positivity)) (by positivity)

end Values

/-- Integers are read exactly: with a marked base from digits of any number, with low lines anywhere
among them and with or without the suffix of big integers; as an octal number where a zero and octal
digits stand alone; and otherwise, in decimal notation, wherever the number denoted is an integer of
at most 53 bits. -/
theorem value_exact_on_integers :
    (∀ {m : Char} {base : Nat} {ds : List Char}, baseOfMark m = some base → IsRun base ds →
      value ('0' :: m :: ds) = .ok (.int (denoted base ds)) ∧
        value ('0' :: m :: ds ++ ['n']) = .ok (.int (denoted base ds))) ∧
    (∀ {text : List Char}, IsLegacyOctal text → value text = .ok (.int (denoted 8 text))) ∧
    ∀ {text : List Char} {q : ℚ} {i : Int}, Denotes text q → ¬IsLegacyOctal text → q = i →
      |i| < 2 ^ 53 → value text = .ok (.int i) := by
  refine ⟨value_marked, IsLegacyOctal.value_eq, ?_⟩
  rintro text q i hq hoctal rfl hi
  -- literals have no sign, so the integer is a natural number
  obtain ⟨v, rfl⟩ := Int.eq_ofNat_of_zero_le (Int.cast_nonneg_iff.1 hq.nonneg)
  obtain ⟨n, k, hv, hvalue⟩ := hq.value_eq hoctal
  rw [hvalue, ofBinary64_of_lt (by exact_mod_cast hv) (by simpa using hi)]

namespace Sample

theorem isRun_hex : IsRun 16 "fF_0".toList := by
  constructor
  · have hall : "fF_0".toList.all (fun c => isDigitOf 16 c || c == '_') = true := rfl
    simpa using List.all_eq_true.1 hall
  · exact ⟨'f', by decide, by decide⟩

theorem isLegacyOctal_separated : IsLegacyOctal "0_17".toList :=
  ⟨['1', '7'], rfl, by decide, List.all_eq_true.1 rfl⟩

theorem denotes_scientific : Denotes "090.50e+1".toList 905 := by
  have hdecimal : Decimal "090.50".toList :=
    @Decimal.mixed "090".toList "50".toList (.next rfl (.next rfl (.one rfl)))
      (.next rfl (.one rfl))
  have hdenotes := Denotes.scientific hdecimal (Or.inl rfl) (Or.inr (Or.inl rfl)) (.one (c := '1') rfl)
  have hvalue : mantissa "090.50".toList * 10 ^ ((denoted 10 ['1'] : Nat) : Int) = 905 := by
    rw [mantissa, ← ofDigits_filterMap, ← ofDigits_filterMap]
    change ((9050 : Nat) : ℚ) / 10 ^ 2 * 10 ^ (1 : Int) = 905
    norm_num
  rwa [if_neg (by decide), hvalue] at hdenotes

end Sample

/-- A hexadecimal number with a suffix, an octal one without a mark, and a decimal one with a leading
zero, a fraction and an exponent. -/
theorem value_exact_on_integers_spellings :
    (baseOfMark 'X' = some 16 ∧ IsRun 16 "fF_0".toList ∧
      value "0XfF_0n".toList = .ok (.int 4080)) ∧
    (IsLegacyOctal "0_17".toList ∧ value "0_17".toList = .ok (.int 15)) ∧
    Denotes "090.50e+1".toList 905 ∧ ¬IsLegacyOctal "090.50e+1".toList ∧ |(905 : Int)| < 2 ^ 53 ∧
      value "090.50e+1".toList = .ok (.int 905) := by
  obtain ⟨hmarked, hoctal, hdecimal⟩ := value_exact_on_integers
  have hhex : denoted 16 "fF_0".toList = 4080 := (ofDigits_filterMap 16 _).symm
  have hfifteen : denoted 8 "0_17".toList = 15 := (ofDigits_filterMap 8 _).symm
  have hnot : ¬IsLegacyOctal "090.50e+1".toList := by
    intro h
    rcases h.digits '.' (by decide) with hc | hc <;> cases hc
  have hsmall : |(905 : Int)| < 2 ^ 53 := by norm_num
  refine ⟨⟨rfl, Sample.isRun_hex, ?_⟩, ⟨Sample.isLegacyOctal_separated, ?_⟩,
    Sample.denotes_scientific, hnot, hsmall,
    hdecimal Sample.denotes_scientific hnot (by norm_num) hsmall⟩
  · have hvalue := (hmarked (rfl : baseOfMark 'X' = some 16) Sample.isRun_hex).2
    rw [hhex] at hvalue
    exact hvalue
  · have hvalue := hoctal Sample.isLegacyOctal_separated
    rw [hfifteen] at hvalue
    exact hvalue

/-- Low lines between the digits do not keep a zero from marking an octal number: the literal denotes 17
as a decimal one, and is read as 15. -/
theorem octal_despite_separator : Denotes "0_17".toList 17 ∧
    (¬∃ ds, "0_17".toList = '0' :: ds ∧ ds ≠ [] ∧ ∀ d ∈ ds, isDigitOf 8 d = true) ∧
    value "0_17".toList = .ok (.int 15) := by
  have hmantissa : mantissa "0_17".toList = 17 := by
    rw [mantissa, ← ofDigits_filterMap]
    change ((17 : Nat) : ℚ) / 10 ^ 0 = 17
    norm_num
  have hdenotes := Denotes.decimal (.whole (.skip rfl (.next rfl (.one rfl))) : Decimal "0_17".toList)
  rw [hmantissa] at hdenotes
  refine ⟨hdenotes, ?_, ?_⟩
  · rintro ⟨ds, hds, -, hd⟩
    obtain rfl : ['_', '1', '7'] = ds := (List.cons.inj hds).2
    cases hd '_' (by decide)
  · rw [Sample.isLegacyOctal_separated.value_eq, ← ofDigits_filterMap]
    rfl

/-- What is read of a literal of a big integer, and when two are read alike. A literal is read as its
integer exactly if its base is marked or 53 bits hold the integer, and two such literals are read alike
exactly if they denote the same integer. Any other is read as the nearest binary64 number: like others
next to the same number, and like no literal that is read exactly, not even of its own integer. -/
theorem value_bigInteger {a b : List Char} {p q : Bool} {v w : Nat} (ha : BigInteger a p v)
    (hb : BigInteger b q w) :
    (value a = .ok (.int v) ↔ IsExact p v) ∧
    (IsExact p v → IsExact q w → (value a = value b ↔ v = w)) ∧
    (IsExact p v → ¬IsExact q w → value a ≠ value b) ∧
    (¬IsExact p v → value a = .ok (.real (Binary64.ofDecimal false v 0)) ∧
      (¬IsExact q w →
        (value a = value b ↔ Binary64.ofDecimal false v 0 = Binary64.ofDecimal false w 0))) := by
  refine ⟨⟨?_, ha.value_of_isExact⟩, ?_, ?_, ?_⟩
  · intro hvalue
    by_contra hv
    rw [ha.value_of_not_isExact hv] at hvalue
    cases hvalue
  · intro hv hw
    rw [ha.value_of_isExact hv, hb.value_of_isExact hw]
    simp
  · intro hv hw
    rw [ha.value_of_isExact hv, hb.value_of_not_isExact hw]
    simp
  · intro hv
    refine ⟨ha.value_of_not_isExact hv, ?_⟩
    intro hw
    rw [ha.value_of_not_isExact hv, hb.value_of_not_isExact hw]
    simp

namespace Sample

/-- The first integer that 53 bits do not hold, in decimal digits. -/
theorem bigInteger_decimal : BigInteger "9_007_199_254_740_993n".toList false 9007199254740993 := by
  have hd : Separated 10 "9_007_199_254_740_993".toList :=
    .skip rfl <| .next rfl <| .next rfl <| .skip rfl <| .next rfl <| .next rfl <| .skip rfl <|
    .next rfl <| .next rfl <| .skip rfl <| .next rfl <| .next rfl <| .skip rfl <| .next rfl <|
    .next rfl <| .one rfl
  have hvalue : denoted 10 "9_007_199_254_740_993".toList = 9007199254740993 :=
    (ofDigits_filterMap 10 _).symm
  exact hvalue ▸ .decimal hd (Or.inr (by decide))

theorem bigInteger_marked : BigInteger "0x20_0000_0000_0001n".toList true 9007199254740993 := by
  have hd : Separated 16 "20_0000_0000_0001".toList :=
    .next rfl <| .skip rfl <| .next rfl <| .next rfl <| .next rfl <| .skip rfl <| .next rfl <|
    .next rfl <| .next rfl <| .skip rfl <| .next rfl <| .next rfl <| .next rfl <| .one rfl
  have hvalue : denoted 16 "20_0000_0000_0001".toList = 9007199254740993 :=
    (ofDigits_filterMap 16 _).symm
  exact hvalue ▸ .marked rfl hd

end Sample

/-- The decimal literal is read as the even integer below it, and its hexadecimal spelling as itself. -/
theorem value_bigInteger_beyond :
    (BigInteger "9_007_199_254_740_993n".toList false 9007199254740993 ∧
      value "9_007_199_254_740_993n".toList = .ok (.real (.finite false (2 ^ 52) 1))) ∧
    (BigInteger "0x20_0000_0000_0001n".toList true 9007199254740993 ∧
      value "0x20_0000_0000_0001n".toList = .ok (.int 9007199254740993)) ∧
    value "0x20_0000_0000_0001n".toList ≠ value "9_007_199_254_740_993n".toList := by
  have hbeyond : ¬IsExact false 9007199254740993 := by norm_num [IsExact]
  have hround : Binary64.ofDecimal false 9007199254740993 0 = .finite false (2 ^ 52) 1 := by
    decide +kernel
  obtain ⟨-, -, -, hreal⟩ := value_bigInteger Sample.bigInteger_decimal Sample.bigInteger_marked
  obtain ⟨hexact, -, hdiffer, -⟩ :=
    value_bigInteger Sample.bigInteger_marked Sample.bigInteger_decimal
  refine ⟨⟨Sample.bigInteger_decimal, ?_⟩, ⟨Sample.bigInteger_marked, ?_⟩, ?_⟩
  · rw [(hreal hbeyond).1, hround]
  · exact hexact.2 (Or.inl rfl)
  · exact hdiffer (Or.inl rfl) hbeyond

end Numeral

end MarkupCensus
