import MarkupCensus.Literal.Escape
import MarkupCensus.Proofs.Positional

namespace MarkupCensus

namespace Escape

/-- The number that hexadecimal digits spell. -/
def number (ds : List Char) : Nat := Numeral.ofDigits 16 (ds.filterMap Digit.hexValue?)

/-- The escape that gives a code point by its number in braces. -/
def braced (ds : List Char) : List Char := '\\' :: 'u' :: '{' :: (ds ++ ['}'])

/-- The texts of escape sequences. -/
inductive Token : List Char → Prop
  | single {c : Char} (hx : c ≠ 'x') (hu : c ≠ 'u') (ho : isOctalDigit c = false) : Token ['\\', c]
  | octal {ds : List Char} (hl : 1 ≤ ds.length ∧ ds.length ≤ 3)
    (hd : ∀ c ∈ ds, isOctalDigit c = true) : Token ('\\' :: ds)
  | hex {ds : List Char} (hl : ds.length = 2) (hd : ∀ c ∈ ds, Numeral.isDigitOf 16 c = true) :
    Token ('\\' :: 'x' :: ds)
  | unicode {ds : List Char} (hl : ds.length = 4) (hd : ∀ c ∈ ds, Numeral.isDigitOf 16 c = true) :
    Token ('\\' :: 'u' :: ds)
  | braced {ds : List Char} (hne : ds ≠ []) (hd : ∀ c ∈ ds, Numeral.isDigitOf 16 c = true) :
    Token (braced ds)
  | lineBreak {c : Char} {cs : List Char} (hc : ∀ d ∈ c :: cs, isLineTerminator d = true) :
    Token ('\\' :: c :: cs)

/-- The fault of a number that is no code point. -/
def rangeFault (n : Nat) : LiteralFault :=
  if n < 0x80000000 then .notCodePoint else .oversizedCodePoint

/-- An escape sequence is read by the character after the backslash. -/
theorem decode_cons (c : Char) (cs : List Char) : decode ('\\' :: c :: cs) =
    if isLineTerminator c then .ok []
    else if c = 'x' && cs.length = 2 then hexadecimal cs
    else if c = 'u' then
      hexadecimal (if cs.head? = some '{' then (cs.drop 1).dropLast else cs)
    else match cs, simple? c with
      | [], some d => .ok [CodePoint.ofChar d]
      | _, _ =>
        if (c :: cs).all isOctalDigit then
          (codePoint (Numeral.ofDigits 8 ((c :: cs).filterMap Digit.hexValue?))).map ([·])
        else .ok ((c :: cs).map CodePoint.ofChar) := rfl

theorem codePoint_natCast (n : Nat) :
    codePoint n = if h : n < 0x110000 then .ok ⟨n, h⟩ else .error (rangeFault n) := by
  have hcast : (((n : Int) < -0x80000000 || 0x80000000 ≤ (n : Int)) : Bool) =
      decide (0x80000000 ≤ n) := by
    rw [Bool.eq_iff_iff]
    simp only [Bool.or_eq_true, decide_eq_true_eq]
    omega
  rw [codePoint, hcast]
  by_cases h : n < 0x110000
  · have hsmall : ¬0x80000000 ≤ n := by omega
    simp [h, hsmall]
  · by_cases hsize : 0x80000000 ≤ n
    · simp [h, hsize, rangeFault, Nat.not_lt.2 hsize]
    · simp [h, hsize, rangeFault, Nat.lt_of_not_le hsize]

theorem codePoint_of_lt {n : Nat} (h : n < 0x110000) : codePoint n = .ok ⟨n, h⟩ := by
  rw [codePoint_natCast, dif_pos h]

section Hexadecimal

variable {ds : List Char}

theorem hexadecimal_eq (hne : ds ≠ []) (hd : ∀ c ∈ ds, Numeral.isDigitOf 16 c = true) :
    hexadecimal ds = (codePoint (number ds)).map ([·]) := by
  rw [hexadecimal, Numeral.integer?_of_digits hne hd]
  rfl

theorem decode_hex (hl : ds.length = 2) (hd : ∀ c ∈ ds, Numeral.isDigitOf 16 c = true) :
    decode ('\\' :: 'x' :: ds) = (codePoint (number ds)).map ([·]) := by
  rw [← hexadecimal_eq (by rintro rfl; cases hl) hd]
  simp [decode_cons, hl, isLineTerminator]

theorem decode_unicode (hl : ds.length = 4) (hd : ∀ c ∈ ds, Numeral.isDigitOf 16 c = true) :
    decode ('\\' :: 'u' :: ds) = (codePoint (number ds)).map ([·]) := by
  have hhead : ds.head? ≠ some '{' := by
    intro h
    cases hd '{' (List.mem_of_head? h)
  rw [← hexadecimal_eq (by rintro rfl; cases hl) hd]
  simp [decode_cons, hhead, isLineTerminator]

/-- A number in braces is read whatever its size, and refused if it is no code point. -/
theorem decode_braced (hne : ds ≠ []) (hd : ∀ c ∈ ds, Numeral.isDigitOf 16 c = true) :
    decode (braced ds) = (codePoint (number ds)).map ([·]) := by
  rw [← hexadecimal_eq hne hd]
  simp [decode_cons, braced, isLineTerminator]

end Hexadecimal

theorem lt_of_isOctalDigit {c : Char} (h : isOctalDigit c = true) : c.toNat < 0x80 := by
  simp only [isOctalDigit, Bool.and_eq_true, decide_eq_true_eq, Char.le_def,
    UInt32.le_iff_toNat_le] at h
  exact Nat.lt_of_le_of_lt h.2 (by decide)

theorem isOctalDigit_spec {c : Char} (h : isOctalDigit c = true) : Numeral.isDigitOf 8 c = true ∧
    isLineTerminator c = false ∧ c ≠ 'x' ∧ c ≠ 'u' ∧ (c = '0' ∨ simple? c = none) :=
  forall_ascii (P := fun c => isOctalDigit c = true → Numeral.isDigitOf 8 c = true ∧
    isLineTerminator c = false ∧ c ≠ 'x' ∧ c ≠ 'u' ∧ (c = '0' ∨ simple? c = none))
    (by decide +kernel) (lt_of_isOctalDigit h) h

theorem decode_octal {ds : List Char} (hne : ds ≠ []) (hd : ∀ c ∈ ds, isOctalDigit c = true) :
    decode ('\\' :: ds) = (codePoint (Numeral.denoted 8 ds)).map ([·]) := by
  obtain ⟨c, cs, rfl⟩ := List.exists_cons_of_ne_nil hne
  obtain ⟨-, hline, hx, hu, hsimple⟩ := isOctalDigit_spec (hd c List.mem_cons_self)
  have hall : (c :: cs).all isOctalDigit = true := List.all_eq_true.2 hd
  simp only [decode_cons, hline, hx, hu, decide_false,
    Bool.false_and, Bool.false_eq_true, if_false, hall, if_true, Numeral.ofDigits_filterMap]
  -- of the octal digits only a zero that stands alone is read by its letter
  rcases hsimple with rfl | hsimple
  · cases cs <;> rfl
  · rw [hsimple]
    cases cs <;> rfl

/-- A character after the backslash stands for itself if it has no meaning of its own. -/
theorem decode_single {c : Char} (hx : c ≠ 'x') (hu : c ≠ 'u') (ho : isOctalDigit c = false) :
    decode ['\\', c] =
      .ok (if isLineTerminator c then [] else [CodePoint.ofChar ((simple? c).getD c)]) := by
  have hall : [c].all isOctalDigit = false := by simp [ho]
  simp only [decode_cons, hx, hu, decide_false, Bool.false_and,
    Bool.false_eq_true, if_false, hall]
  split
  · rfl
  · cases simple? c <;> rfl

theorem exists_map_codePoint {n : Nat} (h : n < 0x110000) :
    ∃ t : Text, (codePoint n).map ([·]) = .ok t := ⟨_, by rw [codePoint_of_lt h]; rfl⟩

/-- Few digits spell a code point. -/
theorem number_lt {ds : List Char} (hl : ds.length ≤ 4)
    (hd : ∀ c ∈ ds, Numeral.isDigitOf 16 c = true) : number ds < 0x110000 := by
  have hlt := Numeral.denoted_lt (by decide) hd
  have hle : 16 ^ ds.length ≤ 16 ^ 4 := Nat.pow_le_pow_right (by decide) hl
  rw [number, Numeral.ofDigits_filterMap]
  omega

/-- Every escape sequence stands for a text, but for a number in braces beyond the last code
point. -/
theorem decode_token {text : List Char} (h : Token text) : (∃ t, decode text = .ok t) ∨
    ∃ ds, text = braced ds ∧ 0x110000 ≤ number ds ∧
      decode text = .error (rangeFault (number ds)) := by
  cases h with
  | single hx hu ho => exact Or.inl ⟨_, decode_single hx hu ho⟩
  | @octal ds hl hd =>
    have hlt := Numeral.denoted_lt (by decide) fun d h => (isOctalDigit_spec (hd d h)).1
    have hle : 8 ^ ds.length ≤ 8 ^ 3 := Nat.pow_le_pow_right (by decide) hl.2
    rw [decode_octal (List.ne_nil_of_length_pos hl.1) hd]
    exact Or.inl (exists_map_codePoint (by omega))
  | hex hl hd =>
    rw [decode_hex hl hd]
    exact Or.inl (exists_map_codePoint (number_lt (by omega) hd))
  | unicode hl hd =>
    rw [decode_unicode hl hd]
    exact Or.inl (exists_map_codePoint (number_lt (by omega) hd))
  | @braced ds hne hd =>
    rw [decode_braced hne hd]
    by_cases hrange : number ds < 0x110000
    · exact Or.inl (exists_map_codePoint hrange)
    · rw [codePoint_natCast, dif_neg hrange]
      exact Or.inr ⟨ds, rfl, Nat.not_lt.1 hrange, rfl⟩
  | lineBreak hc =>
    refine Or.inl ⟨[], ?_⟩
    simp [decode_cons, hc _ List.mem_cons_self]

end Escape

end MarkupCensus
