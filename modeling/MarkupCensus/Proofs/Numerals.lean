import Mathlib.Data.List.TakeDrop
import MarkupCensus.Number.Numeral

namespace MarkupCensus

theorem forall_ascii {P : Char → Prop} (h : ∀ n < 0x80, P (Char.ofNat n)) {c : Char}
    (hc : c.toNat < 0x80) : P c := by
  have hn := h c.toNat hc
  rwa [Char.ofNat_toNat] at hn

/-- A run of characters ends where the first other one stands. -/
theorem span_of_stops {p : Char → Bool} {run rest : List Char} (hrun : ∀ c ∈ run, p c = true)
    (hrest : ∀ c, rest.head? = some c → p c = false) : (run ++ rest).span p = (run, rest) := by
  rw [List.span_eq_takeWhile_dropWhile, List.takeWhile_append_of_pos hrun,
    List.dropWhile_append_of_pos hrun]
  cases rest with
  | nil => simp
  | cons c rest => simp [hrest c rfl]

theorem Case.lower_of_ascii {n : Nat} (hn : n < 0x80) :
    lower n = if 0x41 ≤ n ∧ n ≤ 0x5A then n + 32 else n := by
  -- of all runs only the first lies in ASCII
  have hlate : ∀ r ∈ lowerRuns.tail, 0x80 ≤ r.first := by decide +kernel
  have htail : lowerRuns.tail.find? (·.covers n) = none := by
    rw [List.find?_eq_none]
    intro r hr hcovers
    have hfirst := hlate r hr
    simp only [Run.covers, Bool.and_eq_true, decide_eq_true_eq] at hcovers
    omega
  have hruns : lowerRuns = ⟨0x41, 0x5A, 1, 32⟩ :: lowerRuns.tail := rfl
  have hletters : Run.covers ⟨0x41, 0x5A, 1, 32⟩ n = decide (0x41 ≤ n ∧ n ≤ 0x5A) := by
    simp [Run.covers, Nat.mod_one]
  rw [lower, apply, hruns, List.find?_cons, htail, hletters]
  by_cases h : 0x41 ≤ n ∧ n ≤ 0x5A
  · simp only [h, and_self, decide_true, if_true]
    omega
  · simp only [h, decide_false, if_false]

theorem Case.lowerChar_of_ascii {c : Char} (hc : c.toNat < 0x80) : lowerChar c = [c.toLower] := by
  have hdot : (c.toNat == 0x130) = false := by
    rw [beq_eq_false_iff_ne]
    omega
  have hlower : Char.ofNat (if 0x41 ≤ c.toNat ∧ c.toNat ≤ 0x5A then c.toNat + 32 else c.toNat) =
      c.toLower :=
    forall_ascii (P := fun c => Char.ofNat
      (if 0x41 ≤ c.toNat ∧ c.toNat ≤ 0x5A then c.toNat + 32 else c.toNat) = c.toLower)
      (by decide +kernel) hc
  simp only [lowerChar, hdot, Bool.false_eq_true, if_false, lower_of_ascii hc, hlower]

theorem Case.lowerFrom_of_ascii {cs : List Char} (h : ∀ c ∈ cs, c.toNat < 0x80)
    (before : Option Char) : lowerFrom before cs = cs.map Char.toLower := by
  induction cs generalizing before with
  | nil => rfl
  | cons c cs ih =>
    have hc : c.toNat < 0x80 := h c List.mem_cons_self
    have hsigma : (c.toNat == 0x3A3) = false := by
      rw [beq_eq_false_iff_ne]
      omega
    have hcs := ih (fun d hd => h d (List.mem_cons_of_mem c hd)) (some c)
    simp only [lowerFrom, hsigma, Bool.false_and, Bool.false_eq_true, if_false, hcs,
      lowerChar_of_ascii hc, List.map_cons, List.singleton_append]

namespace Numeral

/-- A digit of a base up to sixteen. -/
def isDigitOf (base : Nat) (c : Char) : Bool := (Digit.hexValue? c).any (· < base)

/-- Digits of a base; a single low line may stand between two of them. -/
inductive Separated (base : Nat) : List Char → Prop
  | one {c : Char} (hc : isDigitOf base c = true) : Separated base [c]
  | next {c : Char} {cs : List Char} (hc : isDigitOf base c = true) (hcs : Separated base cs) :
    Separated base (c :: cs)
  | skip {c : Char} {cs : List Char} (hc : isDigitOf base c = true) (hcs : Separated base cs) :
    Separated base (c :: '_' :: cs)

/-- Decimal digits with or without a point. -/
inductive Decimal : List Char → Prop
  | whole {ds : List Char} (hd : Separated 10 ds) : Decimal ds
  | point {ds : List Char} (hd : Separated 10 ds) : Decimal (ds ++ ['.'])
  | mixed {ds es : List Char} (hd : Separated 10 ds) (he : Separated 10 es) :
    Decimal (ds ++ '.' :: es)
  | fraction {es : List Char} (he : Separated 10 es) : Decimal ('.' :: es)

/-- The letter of an exponent, a sign or none, and digits. -/
inductive Exponent : List Char → Prop
  | mk {e : Char} {sign ds : List Char} (he : e = 'e' ∨ e = 'E')
    (hs : sign = [] ∨ sign = ['+'] ∨ sign = ['-']) (hd : Separated 10 ds) :
    Exponent (e :: (sign ++ ds))

/-- The texts of numeric literals. -/
inductive Token : List Char → Prop
  | marked {m : Char} {base : Nat} {ds : List Char} (hm : baseOfMark m = some base)
    (hd : Separated base ds) : Token ('0' :: m :: ds)
  | markedBig {m : Char} {base : Nat} {ds : List Char} (hm : baseOfMark m = some base)
    (hd : Separated base ds) : Token ('0' :: m :: ds ++ ['n'])
  | big {ds : List Char} (hd : Separated 10 ds) : Token (ds ++ ['n'])
  | decimal {cs : List Char} (hc : Decimal cs) : Token cs
  | scientific {cs es : List Char} (hc : Decimal cs) (he : Exponent es) : Token (cs ++ es)

/-- A character of a numeral other than the suffix of big integers. -/
def isPart (c : Char) : Bool := (Digit.hexValue? c).isSome || "xXoO.+-_".toList.contains c

theorem lt_of_isPart {c : Char} (h : isPart c = true) : c.toNat < 0x80 := by
  rw [isPart, Bool.or_eq_true] at h
  rcases h with h | h
  · unfold Digit.hexValue? at h
    grind
  · have hall : ("xXoO.+-_".toList.all fun d => d.toNat < 0x80) = true := by decide
    simpa using List.all_eq_true.1 hall c (List.contains_iff_mem.1 h)

theorem isPart_toLower {c : Char} (h : isPart c = true) : isPart c.toLower = true :=
  forall_ascii (P := fun c => isPart c = true → isPart c.toLower = true) (by decide +kernel)
    (lt_of_isPart h) h

theorem isMargin_of_isPart {c : Char} (h : isPart c = true) : isMargin c = false :=
  forall_ascii (P := fun c => isPart c = true → isMargin c = false) (by decide +kernel)
    (lt_of_isPart h) h

theorem foldDigit_of_isPart {c : Char} (h : isPart c = true) : foldDigit c = c := by
  rw [foldDigit, if_pos (lt_of_isPart h)]

theorem ne_of_isPart {c : Char} (h : isPart c = true) : c ≠ 'n' := by
  rintro rfl
  revert h
  decide

/-- A numeral stands for itself: it has no blanks around it and no digits of other scripts. -/
theorem map_foldDigit_trim {cs : List Char} (h : ∀ c ∈ cs, isPart c = true) :
    (trim cs).map foldDigit = cs := by
  have hdrop : ∀ ds : List Char, (∀ c ∈ ds, isPart c = true) → ds.dropWhile isMargin = ds := by
    intro ds hds
    cases ds with
    | nil => rfl
    | cons c ds => rw [List.dropWhile_cons_of_neg (by simp [isMargin_of_isPart, hds])]
  have htrim : trim cs = cs := by
    rw [trim, hdrop cs h, hdrop cs.reverse (by simpa using h), List.reverse_reverse]
  rw [htrim]
  exact (List.map_congr_left fun c hc => foldDigit_of_isPart (h c hc)).trans (List.map_id cs)

/-- A numeral without separators, in lower case. -/
def clean (cs : List Char) : List Char := (cs.filter (· != '_')).map Char.toLower

theorem clean_append (cs ds : List Char) : clean (cs ++ ds) = clean cs ++ clean ds := by
  rw [clean, List.filter_append, List.map_append]
  rfl

theorem isPart_of_mem_clean {cs : List Char} (h : ∀ c ∈ cs, isPart c = true) {c : Char}
    (hc : c ∈ clean cs) : isPart c = true := by
  obtain ⟨d, hd, rfl⟩ := List.mem_map.1 hc
  exact isPart_toLower (h d (List.mem_filter.1 hd).1)

theorem lowerCase_filter {cs : List Char} (h : ∀ c ∈ cs, c.toNat < 0x80) :
    Case.lowerCase (cs.filter (· != '_')) = clean cs :=
  Case.lowerFrom_of_ascii (fun c hc => h c (List.mem_filter.1 hc).1) none

theorem normalize_eq_clean {cs : List Char} (h : ∀ c ∈ cs, isPart c = true) :
    normalize cs = clean cs := by
  have hlast : (clean cs).getLast? ≠ some 'n' := by
    intro hn
    exact ne_of_isPart (isPart_of_mem_clean h (List.mem_of_getLast? hn)) rfl
  rw [normalize, lowerCase_filter fun c hc => lt_of_isPart (h c hc), if_neg hlast]

theorem normalize_append_suffix {cs : List Char} (h : ∀ c ∈ cs, isPart c = true) :
    normalize (cs ++ ['n']) = clean cs := by
  have hascii : ∀ c ∈ cs ++ ['n'], c.toNat < 0x80 := by
    intro c hc
    rcases List.mem_append.1 hc with hc | hc
    · exact lt_of_isPart (h c hc)
    · rw [List.mem_singleton.1 hc]
      decide
  have hsuffix : clean ['n'] = ['n'] := by decide
  rw [normalize, lowerCase_filter hascii, clean_append, hsuffix]
  simp

section Digits

variable {base : Nat} {c : Char} {cs ds : List Char}

theorem isPart_of_isDigitOf (h : isDigitOf base c = true) : isPart c = true := by
  obtain ⟨d, hd, _⟩ := (Option.any_eq_true _ _).1 h
  simp [isPart, hd]

theorem hexValue?_toLower (h : isPart c = true) :
    Digit.hexValue? c.toLower = Digit.hexValue? c :=
  forall_ascii (P := fun c => Digit.hexValue? c.toLower = Digit.hexValue? c) (by decide +kernel)
    (lt_of_isPart h)

theorem isDigitOf_toLower (h : isPart c = true) : isDigitOf base c.toLower = isDigitOf base c := by
  rw [isDigitOf, hexValue?_toLower h, isDigitOf]

/-- The mark of a base is no digit of that base. -/
theorem baseOfMark_ne_of_isDigitOf (h : isDigitOf base c = true) : baseOfMark c ≠ some base := by
  intro hm
  unfold baseOfMark at hm
  split at hm <;> cases hm <;> cases h

theorem not_sign_of_isDigitOf (h : isDigitOf base c = true) : c ≠ '-' ∧ c ≠ '+' := by
  constructor
  · rintro rfl
    cases h
  · rintro rfl
    cases h

/-- Digits of a base with any low lines, but not low lines alone. -/
structure IsRun (base : Nat) (ds : List Char) : Prop where
  digits : ∀ c ∈ ds, isDigitOf base c = true ∨ c = '_'
  nonempty : ∃ c ∈ ds, c ≠ '_'

theorem ne_separator (h : isDigitOf base c = true) : c ≠ '_' := by
  rintro rfl
  cases h

theorem Separated.isRun (h : Separated base ds) : IsRun base ds := by
  constructor
  · induction h with
    | one hc => simpa using Or.inl hc
    | next hc _ ih => simpa using ⟨Or.inl hc, ih⟩
    | skip hc _ ih => simpa using ⟨Or.inl hc, ih⟩
  · cases h with
    | one hc => exact ⟨_, List.mem_cons_self, ne_separator hc⟩
    | next hc => exact ⟨_, List.mem_cons_self, ne_separator hc⟩
    | skip hc => exact ⟨_, List.mem_cons_self, ne_separator hc⟩

theorem isPart_of_digits (h : ∀ c ∈ ds, isDigitOf base c = true ∨ c = '_') :
    ∀ c ∈ ds, isPart c = true := by
  intro c hc
  rcases h c hc with hdigit | rfl
  · exact isPart_of_isDigitOf hdigit
  · decide

theorem IsRun.isPart (h : IsRun base ds) : ∀ c ∈ ds, isPart c = true := isPart_of_digits h.digits

theorem mem_clean : c ∈ clean cs ↔ ∃ d ∈ cs, d ≠ '_' ∧ d.toLower = c := by simp [clean, and_assoc]

theorem clean_digits (h : ∀ c ∈ ds, isDigitOf base c = true ∨ c = '_') :
    ∀ c ∈ clean ds, isDigitOf base c = true := by
  intro c hc
  obtain ⟨d, hd, hne, rfl⟩ := mem_clean.1 hc
  rw [isDigitOf_toLower (isPart_of_digits h d hd)]
  exact (h d hd).resolve_right hne

/-- Without its separators a run of digits is a run of digits. -/
theorem IsRun.clean (h : IsRun base ds) :
    Numeral.clean ds ≠ [] ∧ ∀ c ∈ Numeral.clean ds, isDigitOf base c = true := by
  obtain ⟨c, hc, hne⟩ := h.nonempty
  exact ⟨List.ne_nil_of_mem (mem_clean.2 ⟨c, hc, hne, rfl⟩), clean_digits h.digits⟩

theorem clean_cons (h : c ≠ '_') (cs : List Char) : clean (c :: cs) = c.toLower :: clean cs := by
  have hne : (c != '_') = true := bne_iff_ne.2 h
  simp only [clean, List.filter_cons, hne, if_true, List.map_cons]

/-- Neither the separators nor the case of the digits count for the number. -/
theorem filterMap_clean (h : ∀ c ∈ cs, isPart c = true) :
    (clean cs).filterMap Digit.hexValue? = cs.filterMap Digit.hexValue? := by
  induction cs with
  | nil => rfl
  | cons c cs ih =>
    have hcs := ih fun d hd => h d (List.mem_cons_of_mem c hd)
    by_cases hc : c = '_'
    · subst hc
      exact hcs
    · rw [clean_cons hc, List.filterMap_cons, hexValue?_toLower (h c List.mem_cons_self), hcs,
        List.filterMap_cons]

theorem length_filterMap_of_digits (h : ∀ c ∈ cs, isDigitOf base c = true) :
    (cs.filterMap Digit.hexValue?).length = cs.length := by
  induction cs with
  | nil => rfl
  | cons c cs ih =>
    obtain ⟨d, hd, -⟩ := (Option.any_eq_true _ _).1 (h c List.mem_cons_self)
    rw [List.filterMap_cons_some hd, List.length_cons, List.length_cons,
      ih fun e he => h e (List.mem_cons_of_mem c he)]

theorem digits?_eq (hne : cs ≠ []) (h : ∀ c ∈ cs, isDigitOf base c = true) :
    digits? base cs = some (cs.filterMap Digit.hexValue?) := by
  induction cs with
  | nil => exact absurd rfl hne
  | cons c cs ih =>
    obtain ⟨d, hd, hlt⟩ := (Option.any_eq_true _ _).1 (h c List.mem_cons_self)
    have hcs : ∀ e ∈ cs, isDigitOf base e = true := fun e he => h e (List.mem_cons_of_mem c he)
    cases cs with
    | nil => simp_all [digits?]
    | cons e cs =>
      have he : e ≠ '_' := by
        rintro rfl
        cases hcs '_' List.mem_cons_self
      rw [digits?.eq_4 base c (e :: cs) (by simp) (by simpa using he), ih (by simp) hcs]
      simp_all

theorem splitSign_eq (h : ∀ c, cs.head? = some c → c ≠ '-' ∧ c ≠ '+') :
    splitSign cs = (false, cs) := by
  unfold splitSign
  split
  · exact absurd rfl (h '-' rfl).1
  · exact absurd rfl (h '+' rfl).2
  · rfl

/-- An integer of digits, with or without a mark before them. -/
theorem integer?_eq (hpart : ∀ c ∈ cs, isPart c = true)
    (hsign : ∀ c, cs.head? = some c → c ≠ '-' ∧ c ≠ '+') (hmark : dropMark base cs = ds)
    (hne : ds ≠ []) (hd : ∀ c ∈ ds, isDigitOf base c = true) :
    integer? base cs = some (ofDigits base (ds.filterMap Digit.hexValue?) : Int) := by
  rw [integer?, map_foldDigit_trim hpart, splitSign_eq hsign]
  simp [hmark, digits?_eq hne hd]

theorem integer?_of_digits (hne : cs ≠ []) (h : ∀ c ∈ cs, isDigitOf base c = true) :
    integer? base cs = some (ofDigits base (cs.filterMap Digit.hexValue?) : Int) := by
  refine integer?_eq (fun c hc => isPart_of_isDigitOf (h c hc)) ?_ ?_ hne h
  · intro c hc
    exact not_sign_of_isDigitOf (h c (List.mem_of_head? hc))
  · unfold dropMark
    split
    · next m rest => rw [if_neg (baseOfMark_ne_of_isDigitOf (h m (by simp)))]
    · rfl

theorem isPart_of_baseOfMark (h : baseOfMark c = some base) : isPart c = true := by
  unfold baseOfMark at h
  split at h <;> cases h <;> decide

theorem baseOfMark_toLower (h : baseOfMark c = some base) : baseOfMark c.toLower = some base := by
  have hlower : baseOfMark c.toLower = baseOfMark c :=
    forall_ascii (P := fun c => baseOfMark c.toLower = baseOfMark c) (by decide +kernel)
      (lt_of_isPart (isPart_of_baseOfMark h))
  rw [hlower, h]

theorem integer?_marked (hc : baseOfMark c = some base) (hne : ds ≠ [])
    (hd : ∀ c ∈ ds, isDigitOf base c = true) :
    integer? base ('0' :: c :: ds) = some (ofDigits base (ds.filterMap Digit.hexValue?) : Int) := by
  refine integer?_eq ?_ (by simp) ?_ hne hd
  · have hparts : ∀ c ∈ ds, isPart c = true := fun d h => isPart_of_isDigitOf (hd d h)
    simpa using ⟨by decide, isPart_of_baseOfMark hc, hparts⟩
  · have hhead : ds.head? ≠ some '_' := by
      intro h
      cases hd '_' (List.mem_of_head? h)
    rw [dropMark, if_pos hc, if_neg hhead]

theorem isPart_of_mem_marked (hc : baseOfMark c = some base) (hd : IsRun base ds) :
    ∀ d ∈ '0' :: c :: ds, isPart d = true := by
  have hzero : isPart '0' = true := by decide
  simpa [hzero, isPart_of_baseOfMark hc] using hd.isPart

theorem clean_marked (hc : baseOfMark c = some base) (ds : List Char) :
    clean ('0' :: c :: ds) = '0' :: c.toLower :: clean ds := by
  have hne : c ≠ '_' := by
    rintro rfl
    cases hc
  rw [clean_cons (by decide), clean_cons hne]
  rfl

/-- A numeral with a marked base has the number of its digits as its value, of whatever size. -/
theorem value_of_marked (hc : baseOfMark c = some base) (hd : IsRun base ds)
    {text : List Char} (hn : normalize text = clean ('0' :: c :: ds)) :
    value text = .ok (.int (ofDigits base (ds.filterMap Digit.hexValue?))) := by
  have hm := baseOfMark_toLower hc
  have hread := integer?_marked hm hd.clean.1 hd.clean.2
  rw [filterMap_clean hd.isPart] at hread
  rw [clean_marked hc] at hn
  simp [value, hn, markedBase, hm, hread]

end Digits

section Decimals

variable {cs ds es tail : List Char}

theorem isDigit_of_isDigitOf {c : Char} (h : isDigitOf 10 c = true) : c.isDigit = true :=
  forall_ascii (P := fun c => isDigitOf 10 c = true → c.isDigit = true) (by decide +kernel)
    (lt_of_isPart (isPart_of_isDigitOf h)) h

theorem spanDigits_append (hd : ∀ c ∈ ds, isDigitOf 10 c = true)
    (ht : ∀ c, tail.head? = some c → c.isDigit = false) : spanDigits (ds ++ tail) = (ds, tail) := by
  have hdigit : ∀ c ∈ ds, c.isDigit = true := fun c hc => isDigit_of_isDigitOf (hd c hc)
  exact span_of_stops hdigit ht

/-- What may follow the digits of a decimal numeral, an exponent or nothing, and the power of ten that
it gives. -/
structure IsTail (cs : List Char) (e : Int) : Prop where
  head : ∀ c, cs.head? = some c → c = 'e'
  read : exponent? cs = some e

theorem IsTail.nil : IsTail [] 0 := ⟨by simp, rfl⟩

theorem IsTail.head_not_digit {e : Int} (h : IsTail tail e) (c : Char) (hc : tail.head? = some c) :
    c.isDigit = false := by
  rw [h.head c hc]
  rfl

theorem IsTail.exponent {letter : Char} {sign : List Char} (hl : letter = 'e' ∨ letter = 'E')
    (hs : sign = [] ∨ sign = ['+'] ∨ sign = ['-']) (hd : Separated 10 ds) :
    IsTail (clean (letter :: (sign ++ ds)))
      (if sign = ['-'] then -(digitsValue ds : Int) else digitsValue ds) := by
  obtain ⟨hne, hdigits⟩ := hd.isRun.clean
  have hclean : clean (letter :: (sign ++ ds)) = 'e' :: (sign ++ clean ds) := by
    have hletter : clean [letter] = ['e'] := by
      rcases hl with rfl | rfl
      · decide
      · decide
    have hsign : clean sign = sign := by
      rcases hs with rfl | rfl | rfl
      · decide
      · decide
      · decide
    rw [← List.singleton_append, clean_append, clean_append, hletter, hsign]
    rfl
  have hspan : spanDigits (clean ds) = (clean ds, []) := by
    simpa using @spanDigits_append (clean ds) [] hdigits (by simp)
  -- without a sign the first digit might be taken for one
  have hsplit : splitSign (sign ++ clean ds) = (decide (sign = ['-']), clean ds) := by
    rcases hs with rfl | rfl | rfl
    · refine splitSign_eq ?_
      intro c hc
      exact not_sign_of_isDigitOf (hdigits c (List.mem_of_head? hc))
    · rfl
    · rfl
  have hvalue : digitsValue (clean ds) = digitsValue ds := by
    rw [digitsValue, filterMap_clean hd.isRun.isPart, digitsValue]
  rw [hclean]
  refine ⟨by simp, ?_⟩
  simp [exponent?, hsplit, hspan, hne, hvalue]

variable {e : Int}

theorem unsigned?_whole (hne : ds ≠ []) (hd : ∀ c ∈ ds, isDigitOf 10 c = true) (ht : IsTail tail e)
    (negative : Bool) :
    unsigned? negative (ds ++ tail) = some (Binary64.ofDecimal negative (digitsValue ds) e) := by
  have hspan := spanDigits_append hd ht.head_not_digit
  simp only [unsigned?, hspan]
  cases tail with
  | nil => simp [hne, ht.read]
  | cons c tail =>
    obtain rfl := ht.head c rfl
    simp [hne, ht.read]

theorem unsigned?_mixed (hne : ds ≠ [] ∨ es ≠ []) (hd : ∀ c ∈ ds, isDigitOf 10 c = true)
    (he : ∀ c ∈ es, isDigitOf 10 c = true) (ht : IsTail tail e) (negative : Bool) :
    unsigned? negative (ds ++ '.' :: (es ++ tail)) =
      some (Binary64.ofDecimal negative (digitsValue (ds ++ es)) (e - es.length)) := by
  have hwhole : spanDigits (ds ++ '.' :: (es ++ tail)) = (ds, '.' :: (es ++ tail)) :=
    spanDigits_append hd (by simp)
  have hfraction := spanDigits_append he ht.head_not_digit
  have hempty : (ds.isEmpty && es.isEmpty) = false := by
    rcases hne with h | h <;> simp [h]
  simp [unsigned?, hwhole, hfraction, hempty, ht.read]

/-- A character of a numeral in base ten. -/
def isDecimalPart (c : Char) : Bool := isDigitOf 10 c || ".eE+-_".toList.contains c

theorem isPart_of_isDecimalPart {c : Char} (h : isDecimalPart c = true) : isPart c = true := by
  rw [isDecimalPart, Bool.or_eq_true] at h
  rcases h with h | h
  · exact isPart_of_isDigitOf h
  · have hall : ".eE+-_".toList.all isPart = true := by decide
    exact List.all_eq_true.1 hall c (List.contains_iff_mem.1 h)

theorem baseOfMark_of_isDecimalPart {c : Char} (h : isDecimalPart c = true) :
    baseOfMark c.toLower = none :=
  forall_ascii (P := fun c => isDecimalPart c = true → baseOfMark c.toLower = none)
    (by decide +kernel) (lt_of_isPart (isPart_of_isDecimalPart h)) h

/-- A numeral in base ten has no mark. -/
theorem markedBase_clean (h : ∀ c ∈ cs, isDecimalPart c = true) : markedBase (clean cs) = none := by
  unfold markedBase
  split
  · next m rest hcs =>
    have hm : m ∈ clean cs := by simp [hcs]
    obtain ⟨d, hd, -, rfl⟩ := mem_clean.1 hm
    exact baseOfMark_of_isDecimalPart (h d hd)
  · rfl

theorem isDecimalPart_of_digits {base : Nat} (hbase : base ≤ 10)
    (h : ∀ c ∈ ds, isDigitOf base c = true ∨ c = '_') : ∀ c ∈ ds, isDecimalPart c = true := by
  intro c hc
  rcases h c hc with hdigit | rfl
  · obtain ⟨d, hd, hlt⟩ := (Option.any_eq_true _ _).1 hdigit
    have hlt' : d < 10 := Nat.lt_of_lt_of_le (of_decide_eq_true hlt) hbase
    simp [isDecimalPart, isDigitOf, hd, hlt']
  · decide

theorem Separated.isDecimalPart (h : Separated 10 ds) : ∀ c ∈ ds, isDecimalPart c = true :=
  isDecimalPart_of_digits (Nat.le_refl 10) h.isRun.digits

theorem Decimal.isDecimalPart (h : Decimal cs) : ∀ c ∈ cs, isDecimalPart c = true := by
  have hpoint : Numeral.isDecimalPart '.' = true := by decide
  cases h with
  | whole hd => exact hd.isDecimalPart
  | point hd => simpa [or_imp, forall_and, hpoint] using hd.isDecimalPart
  | mixed hd he =>
    simpa [or_imp, forall_and, hpoint] using ⟨hd.isDecimalPart, he.isDecimalPart⟩
  | fraction he => simpa [hpoint] using he.isDecimalPart

theorem Exponent.isDecimalPart (h : Exponent es) : ∀ c ∈ es, isDecimalPart c = true := by
  obtain @⟨e, sign, ds, he, hs, hd⟩ := h
  have hletter : Numeral.isDecimalPart e = true := by
    rcases he with rfl | rfl
    · decide
    · decide
  have hsign : sign.all Numeral.isDecimalPart = true := by
    rcases hs with rfl | rfl | rfl
    · decide
    · decide
    · decide
  rw [List.all_eq_true] at hsign
  simpa [or_imp, forall_and, hletter] using ⟨hsign, hd.isDecimalPart⟩

/-- The number of digits after the point. -/
def places (cs : List Char) : Nat := ((cs.dropWhile (· != '.')).filterMap Digit.hexValue?).length

theorem dropWhile_ne_point (hd : ∀ c ∈ ds, isDigitOf 10 c = true ∨ c = '_') (cs : List Char) :
    (ds ++ cs).dropWhile (· != '.') = cs.dropWhile (· != '.') := by
  apply List.dropWhile_append_of_pos
  intro c hc
  rw [bne_iff_ne]
  rintro rfl
  rcases hd _ hc with h | h <;> cases h

theorem Separated.places_eq_zero (h : Separated 10 ds) : places ds = 0 := by
  have hdrop := dropWhile_ne_point h.isRun.digits []
  rw [List.append_nil] at hdrop
  rw [places, hdrop]
  rfl

theorem unsigned?_pointed (hd : ∀ c ∈ ds, isDigitOf 10 c = true ∨ c = '_')
    (he : ∀ c ∈ es, isDigitOf 10 c = true ∨ c = '_') (hne : clean ds ≠ [] ∨ clean es ≠ [])
    (ht : IsTail tail e) :
    Numeral.unsigned? false (clean (ds ++ '.' :: es) ++ tail) =
      some (Binary64.ofDecimal false (digitsValue (ds ++ '.' :: es))
        (e - places (ds ++ '.' :: es))) := by
  have hclean : clean (ds ++ '.' :: es) ++ tail = clean ds ++ '.' :: (clean es ++ tail) := by
    rw [clean_append, List.append_assoc]
    rfl
  have hvalue : digitsValue (ds ++ '.' :: es) = digitsValue (clean ds ++ clean es) := by
    rw [digitsValue, digitsValue, List.filterMap_append, List.filterMap_append,
      filterMap_clean (isPart_of_digits hd), filterMap_clean (isPart_of_digits he)]
    rfl
  have hplaces : places (ds ++ '.' :: es) = (clean es).length := by
    rw [places, dropWhile_ne_point hd, ← length_filterMap_of_digits (clean_digits he),
      filterMap_clean (isPart_of_digits he)]
    rfl
  rw [hclean, hvalue, hplaces]
  exact unsigned?_mixed hne (clean_digits hd) (clean_digits he) ht false

/-- A decimal numeral is read as its digits, scaled by its places and by the exponent after it. -/
theorem Decimal.unsigned? (h : Decimal cs) (ht : IsTail tail e) :
    Numeral.unsigned? false (clean cs ++ tail) =
      some (Binary64.ofDecimal false (digitsValue cs) (e - places cs)) := by
  have hnone : ∀ c ∈ ([] : List Char), isDigitOf 10 c = true ∨ c = '_' := by simp
  cases h with
  | whole hd =>
    rw [unsigned?_whole hd.isRun.clean.1 hd.isRun.clean.2 ht, hd.places_eq_zero, digitsValue,
      filterMap_clean hd.isRun.isPart, digitsValue, Int.natCast_zero, Int.sub_zero]
  | point hd => exact unsigned?_pointed hd.isRun.digits hnone (Or.inl hd.isRun.clean.1) ht
  | mixed hd he =>
    exact unsigned?_pointed hd.isRun.digits he.isRun.digits (Or.inl hd.isRun.clean.1) ht
  | fraction he => exact unsigned?_pointed hnone he.isRun.digits (Or.inr he.isRun.clean.1) ht

/-- A numeral starts with a digit or with the point. -/
theorem Decimal.not_sign (h : Decimal cs) {c : Char} (hc : (clean cs ++ tail).head? = some c) :
    c ≠ '-' ∧ c ≠ '+' := by
  have hdigits : ∀ {ds rest : List Char}, Separated 10 ds →
      (clean ds ++ rest).head? = some c → c ≠ '-' ∧ c ≠ '+' := by
    intro ds rest hd hhead
    obtain ⟨d, rest', hds⟩ := List.exists_cons_of_ne_nil hd.isRun.clean.1
    rw [hds, List.cons_append, List.head?_cons, Option.some_inj] at hhead
    subst hhead
    exact not_sign_of_isDigitOf (hd.isRun.clean.2 d (by simp [hds]))
  cases h with
  | whole hd => exact hdigits hd hc
  | point hd =>
    rw [clean_append, List.append_assoc] at hc
    exact hdigits hd hc
  | mixed hd he =>
    rw [clean_append, List.append_assoc] at hc
    exact hdigits hd hc
  | fraction he =>
    obtain rfl : '.' = c := Option.some.inj hc
    decide

theorem decimal?_of_unsigned? (hpart : ∀ c ∈ cs, isPart c = true)
    (hsign : ∀ c, cs.head? = some c → c ≠ '-' ∧ c ≠ '+') {x : Binary64}
    (h : Numeral.unsigned? false cs = some x) : decimal? cs = some x := by
  -- a word for a value that is no decimal has letters that no numeral has
  have hword : ∀ word : List Char, word.contains 'n' = true → cs ≠ word := by
    rintro word hn rfl
    exact ne_of_isPart (hpart 'n' (List.contains_iff_mem.1 hn)) rfl
  have hnan := hword "nan".toList rfl
  have hinf : (decide (cs = "inf".toList) || decide (cs = "infinity".toList)) = false := by
    rw [decide_eq_false (hword "inf".toList rfl), decide_eq_false (hword "infinity".toList rfl)]
    rfl
  rw [decimal?, map_foldDigit_trim hpart, splitSign_eq hsign]
  simp only [hnan, hinf, if_false, h]
  rfl

/-- A decimal numeral is a legacy octal one, or has the binary64 number next to it as its value. -/
theorem value_of_decimal {text : List Char} (hc : Decimal cs) (ht : IsTail (clean es) e)
    (he : ∀ c ∈ es, isDecimalPart c = true) (hn : normalize text = clean (cs ++ es)) :
    value text = .ok (if isLegacyOctal (clean (cs ++ es)) = true then
      .int (ofDigits 8 ((clean (cs ++ es)).filterMap Digit.hexValue?))
      else ofBinary64 (Binary64.ofDecimal false (digitsValue cs) (e - places cs))) := by
  have hpart : ∀ c ∈ cs ++ es, isDecimalPart c = true := by
    intro c hmem
    exact (List.mem_append.1 hmem).elim (hc.isDecimalPart c) (he c)
  have hread : decimal? (clean (cs ++ es)) =
      some (Binary64.ofDecimal false (digitsValue cs) (e - places cs)) := by
    have hparts : ∀ c ∈ clean (cs ++ es), isPart c = true := fun c h =>
      isPart_of_mem_clean (fun d hd => isPart_of_isDecimalPart (hpart d hd)) h
    rw [clean_append] at hparts ⊢
    exact decimal?_of_unsigned? hparts (fun c => hc.not_sign) (hc.unsigned? ht)
  simp only [value, hn, markedBase_clean hpart, hread]
  split <;> rfl

end Decimals

/-- Every numeric literal has a value. -/
theorem exists_value_of_token {text : List Char} (h : Token text) : ∃ v, value text = .ok v := by
  have hnil : IsTail (clean []) 0 := .nil
  cases h with
  | marked hm hd =>
    exact ⟨_, value_of_marked hm hd.isRun (normalize_eq_clean (isPart_of_mem_marked hm hd.isRun))⟩
  | markedBig hm hd =>
    exact ⟨_, value_of_marked hm hd.isRun
      (normalize_append_suffix (isPart_of_mem_marked hm hd.isRun))⟩
  | big hd =>
    refine ⟨_, value_of_decimal (.whole hd) hnil (by simp) ?_⟩
    rw [normalize_append_suffix hd.isRun.isPart, List.append_nil]
  | decimal hc =>
    refine ⟨_, value_of_decimal hc hnil (by simp) ?_⟩
    rw [List.append_nil]
    exact normalize_eq_clean fun c h => isPart_of_isDecimalPart (hc.isDecimalPart c h)
  | scientific hc he =>
    have hparts := he.isDecimalPart
    obtain @⟨letter, sign, ds, hl, hs, hd⟩ := he
    refine ⟨_, value_of_decimal hc (.exponent hl hs hd) hparts (normalize_eq_clean ?_)⟩
    intro c h
    exact isPart_of_isDecimalPart ((List.mem_append.1 h).elim (hc.isDecimalPart c) (hparts c))

end Numeral

end MarkupCensus
