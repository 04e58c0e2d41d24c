import MarkupCensus.Proofs.JsonReader
import MarkupCensus.Proofs.Numerals
import MarkupCensus.Proofs.ShortestDigits
import Mathlib.Data.List.TakeWhile

namespace MarkupCensus.Json

/-- What may follow a value in a document: a comma or a line break. -/
def Stops (rest : List Char) : Prop := rest.head? = some ',' ∨ rest.head? = some '\n'

def AllDigits (ds : List Char) : Prop := ∀ c ∈ ds, c.isDigit = true

variable {ds rest : List Char}

theorem spanDigits_of_allDigits (hd : AllDigits ds) (hr : ∀ c ∈ rest.head?, c.isDigit = false) :
    Numeral.spanDigits (ds ++ rest) = (ds, rest) := span_of_stops hd hr

theorem Stops.not_isDigit (h : Stops rest) : ∀ c ∈ rest.head?, c.isDigit = false := by
  intro c hc
  rcases h with h | h
  all_goals
    rw [h] at hc
    cases hc
    rfl

theorem Stops.cons (h : Stops rest) : ∃ c tail, rest = c :: tail ∧ (c = ',' ∨ c = '\n') := by
  cases rest with
  | nil => rcases h with h | h <;> cases h
  | cons c tail => exact ⟨c, tail, rfl, h.imp Option.some.inj Option.some.inj⟩

theorem allDigits_toDigits (n : Nat) : AllDigits (Nat.toDigits 10 n) := fun _ hc =>
  Nat.isDigit_of_mem_toDigits (by norm_num) le_rfl hc

theorem digitsValue_toDigits (n : Nat) : digitsValue (Nat.toDigits 10 n) = n :=
  Nat.ofDigitChars_toDigits (by norm_num) le_rfl

theorem digitsValue_append (as bs : List Char) :
    digitsValue (as ++ bs) = 10 ^ bs.length * digitsValue as + digitsValue bs := by
  rw [digitsValue, Nat.ofDigitChars_append, Nat.ofDigitChars_eq_ofDigitChars_zero]
  rfl

theorem digitsValue_zeros (n : Nat) : digitsValue (List.replicate n '0') = 0 := by
  induction n with
  | zero => rfl
  | succ n ih =>
    rw [List.replicate_succ', digitsValue_append, ih]
    rfl

theorem toDigits_ne_nil (n : Nat) : Nat.toDigits 10 n ≠ [] := by
  have := Nat.length_toDigits_pos (b := 10) (n := n)
  exact List.length_pos_iff.1 this

/-- The digits of an exponent, two at least. -/
def exponentDigits (e : Int) : List Char :=
  if e.natAbs < 10 then '0' :: Nat.toDigits 10 e.natAbs else Nat.toDigits 10 e.natAbs

theorem toList_exponentText (e : Int) :
    (Shortest.exponentText e).toList = (if e < 0 then '-' else '+') :: exponentDigits e := by
  unfold Shortest.exponentText exponentDigits
  split <;> split <;> simp

theorem exponentDigits_spec (e : Int) : AllDigits (exponentDigits e) ∧ exponentDigits e ≠ [] ∧
    digitsValue (exponentDigits e) = e.natAbs := by
  unfold exponentDigits
  split
  · refine ⟨?_, by simp, ?_⟩
    · intro c hc
      rcases List.mem_cons.1 hc with rfl | hc
      · rfl
      · exact allDigits_toDigits _ c hc
    · exact digitsValue_toDigits _
  · exact ⟨allDigits_toDigits _, toDigits_ne_nil _, digitsValue_toDigits _⟩

def exponentChars : Option Int → List Char
  | none => []
  | some e => 'e' :: (Shortest.exponentText e).toList

theorem readExponent_chars (h : Stops rest) (e : Option Int) :
    readExponent (exponentChars e ++ rest) = some (e, rest) := by
  cases e with
  | none =>
    obtain ⟨c, tail, rfl, rfl | rfl⟩ := h.cons <;> rfl
  | some e =>
    obtain ⟨hdigits, hne, hvalue⟩ := exponentDigits_spec e
    rw [exponentChars, toList_exponentText]
    have hsign : Numeral.splitSign ((if e < 0 then '-' else '+') :: (exponentDigits e ++ rest)) =
        (decide (e < 0), exponentDigits e ++ rest) := by
      split <;> simp_all [Numeral.splitSign]
    have hsigned : signed (decide (e < 0)) e.natAbs = e := by
      simp only [signed, decide_eq_true_eq]
      split <;> omega
    simp [readExponent, hsign, spanDigits_of_allDigits hdigits h.not_isDigit, hne, hvalue, hsigned]

namespace Parts

/-- The text of a number without its sign. -/
def text (p : Parts) : List Char :=
  p.whole ++ ((if p.fraction.isEmpty then [] else '.' :: p.fraction) ++ exponentChars p.exponent)

/-- Whether the parts are those of a JSON number. -/
structure IsValid (p : Parts) : Prop where
  whole : AllDigits p.whole
  ne_nil : p.whole ≠ []
  zero : p.whole.head? = some '0' → p.whole.length = 1
  fraction : AllDigits p.fraction

end Parts

theorem readFraction_chars (hf : AllDigits ds) (hr : ∀ c ∈ rest.head?, c.isDigit = false ∧ c ≠ '.') :
    readFraction ((if ds.isEmpty then [] else '.' :: ds) ++ rest) = some (ds, rest) := by
  cases ds with
  | nil =>
    cases rest with
    | nil => rfl
    | cons c rest =>
      have hc := (hr c rfl).2
      simp [readFraction, hc]
  | cons d ds =>
    have hspan := spanDigits_of_allDigits hf fun c hc => (hr c hc).1
    simp only [List.cons_append] at hspan
    simp [readFraction, hspan]

theorem readUnsigned_text {p : Parts} (hp : p.IsValid) (h : Stops rest) (negative : Bool) :
    readUnsigned negative (p.text ++ rest) = some (p.number negative, rest) := by
  have hexponent : ∀ c ∈ (exponentChars p.exponent ++ rest).head?, c.isDigit = false ∧ c ≠ '.' := by
    intro c hc
    cases he : p.exponent with
    | none =>
      rw [he] at hc
      obtain ⟨d, tail, rfl, hd⟩ := h.cons
      obtain rfl : d = c := Option.some.inj hc
      rcases hd with rfl | rfl <;> decide
    | some e =>
      rw [he] at hc
      obtain rfl : 'e' = c := Option.some.inj hc
      decide
  have hfraction : ∀ c ∈ ((if p.fraction.isEmpty then [] else '.' :: p.fraction) ++
      (exponentChars p.exponent ++ rest)).head?, c.isDigit = false := by
    intro c hc
    split at hc
    · exact (hexponent c hc).1
    · obtain rfl : '.' = c := Option.some.inj hc
      rfl
  have hwhole : (p.whole.isEmpty || (p.whole.head? = some '0' && 1 < p.whole.length)) = false := by
    have hne := hp.ne_nil
    have hzero := hp.zero
    simp_all
  rw [Parts.text, List.append_assoc, List.append_assoc, readUnsigned,
    spanDigits_of_allDigits hp.whole hfraction]
  simp only [hwhole, Bool.false_eq_true, if_false, readFraction_chars hp.fraction hexponent,
    readExponent_chars h, Option.bind_eq_bind, Option.bind_some]

/-- A number is read from its text. -/
theorem readNumber_text {p : Parts} (hp : p.IsValid) (h : Stops rest) (negative : Bool) :
    readNumber ((if negative then ['-'] else []) ++ (p.text ++ rest)) =
      some (p.number negative, rest) := by
  cases negative with
  | true => exact readUnsigned_text hp h true
  | false =>
    rw [← readUnsigned_text hp h false]
    obtain ⟨d, ds, hd⟩ := List.exists_cons_of_ne_nil hp.ne_nil
    have hdigit := hp.whole d (by rw [hd]; exact List.mem_cons_self)
    rw [Parts.text, hd]
    simp only [Bool.false_eq_true, if_false, List.nil_append, List.cons_append]
    rw [readNumber]
    rintro cs heq
    cases heq
    cases hdigit

theorem digitsValue_lt (hd : AllDigits ds) : digitsValue ds < 10 ^ ds.length := by
  induction ds using List.reverseRecOn with
  | nil => decide
  | append_singleton ds c ih =>
    have hc : digitsValue [c] < 10 := by
      have hdigit := hd c (by simp)
      simp only [Char.isDigit, Bool.and_eq_true, decide_eq_true_eq] at hdigit
      have hle : c.toNat ≤ 57 := hdigit.2
      change 10 * 0 + (c.toNat - 48) < 10
      omega
    have := ih fun x hx => hd x (by simp [hx])
    rw [digitsValue_append, List.length_append, Nat.pow_add]
    simp only [List.length_singleton, Nat.pow_one]
    omega

/-- The first digit of a positive number is no zero. -/
theorem head?_toDigits {n : Nat} (hn : 0 < n) : (Nat.toDigits 10 n).head? ≠ some '0' := by
  intro hzero
  have hlow := (Binary64.toDigits_bounds hn).1
  have hvalue := digitsValue_toDigits n
  have hall := allDigits_toDigits n
  cases hds : Nat.toDigits 10 n with
  | nil => exact toDigits_ne_nil n hds
  | cons d ds =>
    rw [hds] at hzero hlow hvalue hall
    obtain rfl : d = '0' := Option.some.inj hzero
    have hlt := digitsValue_lt fun c hc => hall c (List.mem_cons_of_mem _ hc)
    rw [List.length_cons, Nat.add_sub_cancel] at hlow
    have htail : digitsValue ('0' :: ds) = digitsValue ds := rfl
    omega

/-- Only zeros are dropped from the end of digits. -/
theorem dropZeros_append (ds : List Char) :
    ∃ n, ds = Shortest.dropZeros ds ++ List.replicate n '0' := by
  refine ⟨(ds.reverse.takeWhile (· == '0')).length, ?_⟩
  have hzeros : ds.reverse.takeWhile (· == '0') =
      List.replicate (ds.reverse.takeWhile (· == '0')).length '0' :=
    List.eq_replicate_iff.2 ⟨rfl, fun c hc => by simpa using List.mem_takeWhile_imp hc⟩
  have hsplit := congrArg List.reverse
    (List.takeWhile_append_dropWhile (p := (· == '0')) (l := ds.reverse))
  rw [List.reverse_append, List.reverse_reverse, hzeros, List.reverse_replicate] at hsplit
  exact hsplit.symm

theorem mem_of_mem_dropZeros {c : Char} (h : c ∈ Shortest.dropZeros ds) : c ∈ ds := by
  obtain ⟨n, hn⟩ := dropZeros_append ds
  rw [hn]
  exact List.mem_append_left _ h

/-- The digits of a positive number without the zeros at their end. -/
theorem dropZeros_toDigits {n : Nat} (hn : 0 < n) :
    Shortest.dropZeros (Nat.toDigits 10 n) ≠ [] ∧
      (Shortest.dropZeros (Nat.toDigits 10 n)).head? ≠ some '0' ∧
      ∃ k, (Nat.toDigits 10 n).length = (Shortest.dropZeros (Nat.toDigits 10 n)).length + k ∧
        n = 10 ^ k * digitsValue (Shortest.dropZeros (Nat.toDigits 10 n)) := by
  obtain ⟨k, hk⟩ := dropZeros_append (Nat.toDigits 10 n)
  have hvalue := digitsValue_toDigits n
  have hhead := head?_toDigits hn
  generalize Shortest.dropZeros (Nat.toDigits 10 n) = ds at *
  rw [hk, digitsValue_append, digitsValue_zeros, List.length_replicate, Nat.add_zero] at hvalue
  have hne : ds ≠ [] := by
    rintro rfl
    rw [show digitsValue [] = 0 from rfl, Nat.mul_zero] at hvalue
    omega
  refine ⟨hne, ?_, k, by rw [hk]; simp, hvalue.symm⟩
  rw [hk] at hhead
  obtain ⟨d, tail, rfl⟩ := List.exists_cons_of_ne_nil hne
  exact hhead

/-- Whether parts are those of a text with a point or an exponent, whose value is given. -/
structure Parts.Writes (p : Parts) (text : List Char) (q : ℚ) : Prop where
  valid : p.IsValid
  text_eq : text = p.text
  value : (digitsValue (p.whole ++ p.fraction) : ℚ) * 10 ^ (p.exponent.getD 0 - p.fraction.length) = q
  real : p.fraction ≠ [] ∨ p.exponent.isSome = true

section Layouts

variable {p : Int}

theorem allDigits_append {as bs : List Char} (ha : AllDigits as) (hb : AllDigits bs) :
    AllDigits (as ++ bs) := fun c hc => (List.mem_append.1 hc).elim (ha c) (hb c)

theorem allDigits_zeros (n : Nat) : AllDigits (List.replicate n '0') := by
  intro c hc
  rw [List.eq_of_mem_replicate hc]
  rfl

theorem exists_writes_small (hd : AllDigits ds) (hne : ds ≠ []) (hlow : -4 ≤ p) (hp : p < 0) :
    ∃ parts : Parts, parts.Writes (Document.numberFormat.place ds p).toList
      (digitsValue ds * 10 ^ (p + 1 - ds.length)) := by
  refine ⟨{ whole := ['0'], fraction := List.replicate (p.natAbs - 1) '0' ++ ds },
    ⟨?_, ?_, ?_, ?_⟩, ?_, ?_, ?_⟩
  · exact allDigits_zeros 1
  · simp
  · simp
  · exact allDigits_append (allDigits_zeros _) hd
  · have hhigh : p < 16 := by omega
    simp [Shortest.Format.place, Document.numberFormat, hlow, hhigh, hp, Parts.text, exponentChars, hne]
  · have hexp : (0 : Int) - (List.replicate (p.natAbs - 1) '0' ++ ds).length = p + 1 - ds.length := by
      rw [List.length_append, List.length_replicate]
      omega
    have hvalue : digitsValue (['0'] ++ (List.replicate (p.natAbs - 1) '0' ++ ds)) = digitsValue ds := by
      rw [← List.append_assoc, digitsValue_append, ← List.replicate_one, ← List.replicate_add,
        digitsValue_zeros, Nat.mul_zero, Nat.zero_add]
    simp only [hvalue, Option.getD_none, hexp]
  · simp [hne]

theorem exists_writes_whole (hd : AllDigits ds) (hne : ds ≠ []) (hz : ds.head? ≠ some '0')
    (hp : 0 ≤ p) (hhigh : p < 16) (hlen : ds.length ≤ p.natAbs + 1) :
    ∃ parts : Parts, parts.Writes (Document.numberFormat.place ds p).toList
      (digitsValue ds * 10 ^ (p + 1 - ds.length)) := by
  have hzeros : AllDigits (List.replicate (p.natAbs + 1 - ds.length) '0') := allDigits_zeros _
  refine ⟨{ whole := ds ++ List.replicate (p.natAbs + 1 - ds.length) '0', fraction := ['0'] },
    ⟨?_, ?_, ?_, ?_⟩, ?_, ?_, ?_⟩
  · exact allDigits_append hd hzeros
  · simp [hne]
  · obtain ⟨d, tail, rfl⟩ := List.exists_cons_of_ne_nil hne
    exact fun h => absurd h hz
  · exact allDigits_zeros 1
  · have hlow : -4 ≤ p := by omega
    have hneg : ¬ p < 0 := by omega
    simp [Shortest.Format.place, Document.numberFormat, hlow, hhigh, hneg, Parts.text, exponentChars,
      List.take_of_length_le hlen, List.drop_of_length_le hlen]
  · have hvalue : digitsValue (ds ++ List.replicate (p.natAbs + 1 - ds.length) '0' ++ ['0']) =
        10 ^ (p.natAbs + 1 - ds.length + 1) * digitsValue ds := by
      rw [List.append_assoc, digitsValue_append, ← List.replicate_succ', digitsValue_zeros,
        List.length_replicate, Nat.add_zero]
    simp only [hvalue, Option.getD_none, List.length_singleton]
    push_cast
    rw [← zpow_natCast, mul_comm, ← mul_assoc, ← zpow_add₀ (by norm_num), mul_comm]
    congr 2
    omega
  · simp

theorem exists_writes_mixed (hd : AllDigits ds) (hz : ds.head? ≠ some '0') (hp : 0 ≤ p)
    (hhigh : p < 16) (hlen : p.natAbs + 1 < ds.length) :
    ∃ parts : Parts, parts.Writes (Document.numberFormat.place ds p).toList
      (digitsValue ds * 10 ^ (p + 1 - ds.length)) := by
  have hne : ds.drop (p.natAbs + 1) ≠ [] := by simp; omega
  have hwhole : ds.take (p.natAbs + 1) ≠ [] := by
    rw [← List.length_pos_iff, List.length_take]
    omega
  refine ⟨{ whole := ds.take (p.natAbs + 1), fraction := ds.drop (p.natAbs + 1) },
    ⟨?_, hwhole, ?_, ?_⟩, ?_, ?_, ?_⟩
  · exact fun c hc => hd c (List.mem_of_mem_take hc)
  · intro h
    rw [List.head?_take, if_neg (by omega)] at h
    exact absurd h hz
  · exact fun c hc => hd c (List.mem_of_mem_drop hc)
  · have hlow : -4 ≤ p := by omega
    have hneg : ¬ p < 0 := by omega
    have hmin : p.natAbs + 1 - min (p.natAbs + 1) ds.length = 0 := by omega
    simp [Shortest.Format.place, Document.numberFormat, hlow, hhigh, hneg, Parts.text, exponentChars,
      hmin, Nat.not_le.2 hlen]
  · have hexp : (0 : Int) - (ds.drop (p.natAbs + 1)).length = p + 1 - ds.length := by
      rw [List.length_drop]
      omega
    simp only [List.take_append_drop, Option.getD_none, hexp]
  · exact Or.inl hne

theorem exists_writes_exponent (hd : AllDigits ds) (hne : ds ≠ []) (hp : ¬ (-4 ≤ p ∧ p < 16)) :
    ∃ parts : Parts, parts.Writes (Document.numberFormat.place ds p).toList
      (digitsValue ds * 10 ^ (p + 1 - ds.length)) := by
  obtain ⟨d, tail, rfl⟩ := List.exists_cons_of_ne_nil hne
  refine ⟨{ whole := [d], fraction := tail, exponent := some p }, ⟨?_, ?_, ?_, ?_⟩, ?_, ?_, ?_⟩
  · exact fun c hc => hd c (by simp_all)
  · simp
  · simp
  · exact fun c hc => hd c (List.mem_cons_of_mem d hc)
  · have hformat : ¬ (Document.numberFormat.positionalFrom ≤ p &&
        p < Document.numberFormat.positionalBelow) = true := by
      rw [Bool.and_eq_true, decide_eq_true_eq, decide_eq_true_eq]
      exact hp
    rw [Shortest.Format.place, if_neg hformat]
    cases tail with
    | nil => simp [Parts.text, exponentChars]
    | cons c tail => simp [Parts.text, exponentChars]
  · have hexp : p - tail.length = p + 1 - (d :: tail).length := by
      rw [List.length_cons]
      omega
    simp only [List.singleton_append, Option.getD_some, hexp]
  · simp

/-- However digits are laid out, their text is that of a number of the same value. -/
theorem exists_writes_place (hd : AllDigits ds) (hne : ds ≠ []) (hz : ds.head? ≠ some '0') (p : Int) :
    ∃ parts : Parts, parts.Writes (Document.numberFormat.place ds p).toList
      (digitsValue ds * 10 ^ (p + 1 - ds.length)) := by
  by_cases hp : -4 ≤ p ∧ p < 16
  · by_cases hneg : p < 0
    · exact exists_writes_small hd hne hp.1 hneg
    · by_cases hlen : ds.length ≤ p.natAbs + 1
      · exact exists_writes_whole hd hne hz (by omega) hp.2 hlen
      · exact exists_writes_mixed hd hz (by omega) hp.2 (by omega)
  · exact exists_writes_exponent hd hne hp

end Layouts

theorem Parts.Writes.number_eq {p : Parts} {text : List Char} {m : Nat} {e : Int} {q : ℚ}
    (h : p.Writes text q) (hc : Binary64.IsCanonical m e) (hm : 0 < m)
    (hq : Binary64.IsNearest m e q) (negative : Bool) :
    p.number negative = .real (.finite negative m e) := by
  have hreal : (p.fraction.isEmpty && p.exponent.isNone) = false := by
    rcases h.real with hf | he
    · simp [hf]
    · cases hx : p.exponent with
      | none => simp [hx] at he
      | some e => simp
  rw [← h.value] at hq
  rw [Parts.number, hreal, if_neg (by simp), Binary64.ofDecimal_of_isNearest hc hm hq negative]

/-- The text of a number has the value of its shortest decimal. -/
theorem exists_writes_decimal {m : Nat} {e : Int} (hc : Binary64.IsCanonical m e) (hm : 0 < m) :
    let d := Shortest.decimal m e
    let ds := Nat.toDigits 10 d.digits
    ∃ parts : Parts, parts.Writes
      (Document.numberFormat.place (Shortest.dropZeros ds) (d.exponent + ds.length - 1)).toList
      (d.digits * 10 ^ d.exponent) := by
  intro d ds
  have hpos : 0 < d.digits := (Shortest.decimal_isNearest hc hm).digits_pos hc hm
  obtain ⟨hne, hz, k, hlen, hvalue⟩ := dropZeros_toDigits hpos
  have hdigits : AllDigits (Shortest.dropZeros ds) := fun c hc =>
    allDigits_toDigits d.digits c (mem_of_mem_dropZeros hc)
  obtain ⟨parts, hwrites⟩ := exists_writes_place hdigits hne hz (d.exponent + ds.length - 1)
  refine ⟨parts, ?_⟩
  convert hwrites using 1
  have hexp : d.exponent + ds.length - 1 + 1 - (Shortest.dropZeros ds).length =
      (k : Int) + d.exponent := by
    have : ds.length = (Shortest.dropZeros ds).length + k := hlen
    omega
  rw [hexp, zpow_add₀ (by norm_num), zpow_natCast, ← mul_assoc]
  congr 1
  rw [mul_comm]
  exact_mod_cast hvalue

/-- A finite number is read from its text as it is. -/
theorem readNumber_render {m : Nat} {e : Int} (hc : Binary64.IsCanonical m e) (h : Stops rest)
    (negative : Bool) :
    readNumber ((Document.numberFormat.render (.finite negative m e)).toList ++ rest) =
      some (.real (.finite negative m e), rest) := by
  have hsign : (if negative then "-" else "" : String).toList = if negative then ['-'] else [] := by
    cases negative <;> rfl
  by_cases hm : m = 0
  · have he : e = -1074 := hc.normal.resolve_left (by omega)
    have hvalid : Parts.IsValid { whole := ['0'], fraction := ['0'] } :=
      ⟨allDigits_zeros 1, by simp, by simp, allDigits_zeros 1⟩
    have hread := readNumber_text hvalid h negative
    simp only [Shortest.Format.render, hm, if_true, he, String.toList_append, hsign, List.append_assoc]
    exact hread
  · have hm' := Nat.pos_of_ne_zero hm
    obtain ⟨parts, hwrites⟩ := exists_writes_decimal hc hm'
    have hnumber := hwrites.number_eq hc hm' (Shortest.decimal_isNearest hc hm') negative
    simp only [Shortest.Format.render, hm, if_false, String.toList_append, hsign, List.append_assoc,
      hwrites.text_eq]
    rw [readNumber_text hwrites.valid h negative, hnumber]

/-- An integer is read from its text as it is. -/
theorem readNumber_toString (n : Int) (h : Stops rest) :
    readNumber ((toString n).toList ++ rest) = some (.int n, rest) := by
  have hvalid : Parts.IsValid { whole := Nat.toDigits 10 n.natAbs } := by
    refine ⟨allDigits_toDigits _, toDigits_ne_nil _, ?_, by simp [AllDigits]⟩
    intro hzero
    rcases Nat.eq_zero_or_pos n.natAbs with hn | hn
    · rw [hn]
      rfl
    · exact absurd hzero (head?_toDigits hn)
  have htext : (toString n).toList =
      (if decide (n < 0) then ['-'] else []) ++ Parts.text { whole := Nat.toDigits 10 n.natAbs } := by
    rw [Int.toString_eq_repr, Int.repr_eq_if]
    by_cases hn : 0 ≤ n
    · have habs : n.toNat = n.natAbs := by omega
      simp [hn, habs, Parts.text, exponentChars, not_lt.2 hn]
    · have habs : (-n).toNat = n.natAbs := by omega
      simp [hn, habs, Parts.text, exponentChars, not_le.1 hn]
  have hnumber : Parts.number { whole := Nat.toDigits 10 n.natAbs } (decide (n < 0)) = .int n := by
    simp only [Parts.number, List.isEmpty_nil, Option.isNone_none, Bool.and_true, if_true,
      digitsValue_toDigits, signed, decide_eq_true_eq]
    congr 1
    split <;> omega
  rw [htext, List.append_assoc, readNumber_text hvalid h, hnumber]

end MarkupCensus.Json
