import MarkupCensus.Literal.CharRef
import MarkupCensus.Proofs.Numerals
import Mathlib.Data.List.TakeWhile

namespace MarkupCensus.CharRef

/-- What stands before the digits of a number, its base, and its digits. -/
inductive Base : List Char → Nat → (Char → Bool) → Prop
  | decimal : Base ['#'] 10 Char.isDigit
  | hexadecimal {x : Char} (hx : x = 'x' ∨ x = 'X') :
    Base ['#', x] 16 fun c => (Digit.hexValue? c).isSome

/-- The references that end in a semicolon, without the ampersand, with what they stand for. -/
inductive Terminated : List Char → List Char → Prop
  | number {mark ds : List Char} {base : Nat} {isDigit : Char → Bool} (hb : Base mark base isDigit)
    (hne : ds ≠ []) (hd : ∀ c ∈ ds, isDigit c = true) :
    Terminated (mark ++ ds ++ [';']) (ofNumber (valueOf base ds))
  | name {name value : List Char} (hl : name.length ≤ 32) (hn : ∀ c ∈ name, isNameChar c = true)
    (h : ofName? (name ++ [';']) = some value) : Terminated (name ++ [';']) value

/-- What is read as a reference without a semicolon, too: a number, or one of the older names, whatever
comes after it. -/
inductive Opens : List Char → Prop
  | number {mark rest : List Char} {d : Char} {base : Nat} {isDigit : Char → Bool}
    (hb : Base mark base isDigit) (hd : isDigit d = true) : Opens (mark ++ d :: rest)
  | name {name : String} {rest : List Char} (h : name ∈ unterminated) : Opens (name.toList ++ rest)

/-- A number comes first, whatever comes after it. -/
def StartsNumber (cs : List Char) : Prop :=
  ∃ mark base isDigit d rest, Base mark base isDigit ∧ isDigit d = true ∧ cs = mark ++ d :: rest

/-- A number in base ten that has too many digits to be read. -/
def Overlong (cs : List Char) : Prop :=
  ∃ ds rest, cs = '#' :: (ds ++ rest) ∧ (∀ c ∈ ds, c.isDigit = true) ∧ digitLimit < ds.length

section Semicolon

variable {cs rest : List Char}

theorem splitSemicolon_of_ne (h : cs.head? ≠ some ';') : splitSemicolon cs = ([], cs) := by
  unfold splitSemicolon
  split
  · simp at h
  · rfl

theorem splitSemicolon_cases (cs : List Char) : splitSemicolon cs = ([], cs) ∨
    ∃ rest, cs = ';' :: rest ∧ splitSemicolon cs = ([';'], rest) := by
  by_cases h : cs.head? = some ';'
  · obtain ⟨rest, rfl⟩ := List.head?_eq_some_iff.1 h
    exact Or.inr ⟨rest, rfl, rfl⟩
  · exact Or.inl (splitSemicolon_of_ne h)

end Semicolon

section Number

variable {mark ds rest : List Char} {base : Nat} {isDigit : Char → Bool}

/-- A number ends where its digits end, or after a semicolon there. -/
theorem reference?_number (hb : Base mark base isDigit) (hne : ds ≠ [])
    (hd : ∀ c ∈ ds, isDigit c = true) (hrest : ∀ c, rest.head? = some c → isDigit c = false) :
    reference? (mark ++ ds ++ rest) =
      (numberOf base ds).map fun n => some (ofNumber n, (splitSemicolon rest).2) := by
  have hspan := span_of_stops hd hrest
  obtain ⟨d, ds, rfl⟩ := List.exists_cons_of_ne_nil hne
  cases hb with
  | decimal =>
    have hx : (d = 'x' || d = 'X') = false := by
      have hdigit := hd d List.mem_cons_self
      rw [Bool.or_eq_false_iff, decide_eq_false_iff_not, decide_eq_false_iff_not]
      exact ⟨fun h => by simp [h] at hdigit, fun h => by simp [h] at hdigit⟩
    simp only [List.cons_append, List.nil_append] at hspan ⊢
    simp only [reference?, hx, decimalDigits, hspan]
    rfl
  | @hexadecimal x hx =>
    have hmark : (x = 'x' || x = 'X') = true := by simpa using hx
    simp only [List.cons_append, List.nil_append] at hspan ⊢
    simp only [reference?, hmark, hexDigits, hspan]
    rfl

theorem numberOf_of_not_overlong (hb : Base mark base isDigit) (hd : ∀ c ∈ ds, isDigit c = true)
    (h : ¬Overlong (mark ++ ds ++ rest)) : numberOf base ds = .ok (valueOf base ds) := by
  refine if_neg ?_
  rintro ⟨hten, hlong⟩
  cases hb with
  | decimal => exact h ⟨ds, rest, rfl, hd, hlong⟩
  | hexadecimal => cases hten

theorem exists_digits_append (isDigit : Char → Bool) (cs : List Char) : ∃ ds rest, cs = ds ++ rest ∧
    (∀ c ∈ ds, isDigit c = true) ∧ ∀ c, rest.head? = some c → isDigit c = false := by
  refine ⟨_, _, (List.takeWhile_append_dropWhile (p := isDigit) (l := cs)).symm,
    fun c hc => List.mem_takeWhile_imp hc, ?_⟩
  intro c hc
  have hhead := List.head?_dropWhile_not isDigit cs
  rw [hc] at hhead
  exact hhead

/-- Too many digits are counted, all of them. -/
theorem reference?_of_overlong {cs : List Char} (h : Overlong cs) :
    ∃ digits, digitLimit < digits ∧ reference? cs = .error (.overlongNumeral digits) := by
  obtain ⟨ds, more, rfl, hd, hlong⟩ := h
  obtain ⟨after, rest, rfl, hafter, hstop⟩ := exists_digits_append Char.isDigit more
  have hall : ∀ c ∈ ds ++ after, c.isDigit = true := List.forall_mem_append.2 ⟨hd, hafter⟩
  have hlength : digitLimit < (ds ++ after).length := by
    rw [List.length_append]
    omega
  have hne : ds ++ after ≠ [] := List.ne_nil_of_length_pos (by omega)
  have hread := reference?_number .decimal hne hall hstop
  rw [numberOf, if_pos ⟨rfl, hlength⟩] at hread
  refine ⟨(ds ++ after).length, hlength, ?_⟩
  rw [← List.append_assoc]
  exact hread

end Number

section Name

variable {name more rest cs : List Char} {n : Nat}

/-- A name that ends where its characters end, or where it is too long to go on. -/
structure IsNameRun (name rest : List Char) : Prop where
  chars : ∀ c ∈ name, isNameChar c = true
  length_le : name.length ≤ 32
  stops : name.length = 32 ∨ ∀ c, rest.head? = some c → isNameChar c = false

theorem IsNameRun.takeWhile_take (h : IsNameRun name rest) :
    ((name ++ rest).take 32).takeWhile isNameChar = name := by
  have htake : (name ++ rest).take 32 = name ++ rest.take (32 - name.length) := by
    rw [List.take_append, List.take_of_length_le h.length_le]
  rw [htake, List.takeWhile_append_of_pos h.chars]
  obtain hfull | hstops := h.stops
  · simp [hfull]
  · cases rest with
    | nil => simp
    | cons c rest =>
      have hc := hstops c rfl
      cases 32 - name.length <;> simp [hc]

theorem exists_isNameRun (cs : List Char) : ∃ name rest, cs = name ++ rest ∧ IsNameRun name rest := by
  have hsplit := List.takeWhile_append_dropWhile (p := isNameChar) (l := cs.take 32)
  generalize hname : (cs.take 32).takeWhile isNameChar = name at hsplit
  generalize hleft : (cs.take 32).dropWhile isNameChar = left at hsplit
  have hcs : cs = name ++ (left ++ cs.drop 32) := by
    rw [← List.append_assoc, hsplit, List.take_append_drop]
  have hlength : name.length + left.length = min 32 cs.length := by
    rw [← List.length_append, hsplit, List.length_take]
  refine ⟨name, left ++ cs.drop 32, hcs, ?_, by omega, ?_⟩
  · intro c hc
    rw [← hname] at hc
    exact List.mem_takeWhile_imp hc
  · cases left with
    | nil =>
      -- the name took all it could, or there is nothing left
      rcases Nat.lt_or_ge cs.length 32 with hlt | hge
      · rw [List.drop_eq_nil_of_le (by omega)]
        exact Or.inr (by simp)
      · exact Or.inl (by simp at hlength; omega)
    | cons c left =>
      have hc := List.head?_dropWhile_not isNameChar (cs.take 32)
      rw [hleft] at hc
      exact Or.inr (by simpa using hc)

/-- Whatever starts with characters of names starts with a part of its name. -/
theorem IsNameRun.prefix_of_append (h : IsNameRun name rest) (hm : ∀ c ∈ more, isNameChar c = true)
    (hl : more.length ≤ 32) (hp : more <+: name ++ rest) : more <+: name := by
  rcases Nat.lt_or_ge name.length more.length with hlt | hle
  · -- the name would have gone on
    obtain ⟨after, hafter⟩ := List.prefix_of_prefix_length_le (List.prefix_append name rest) hp hlt.le
    have hne : after ≠ [] := by
      rintro rfl
      simp [← hafter] at hlt
    obtain ⟨c, after, rfl⟩ := List.exists_cons_of_ne_nil hne
    rw [← hafter, List.prefix_append_right_inj] at hp
    obtain ⟨tail, rfl⟩ := hp
    have hstop := h.stops.resolve_left (by omega) c rfl
    rw [hm c (by simp [← hafter])] at hstop
    cases hstop
  · exact List.prefix_of_prefix_length_le hp (List.prefix_append name rest) hle

theorem reference?_name (h : IsNameRun name rest) (hne : name ≠ []) :
    reference? (name ++ rest) =
      .ok (some (named (name ++ (splitSemicolon rest).1), (splitSemicolon rest).2)) := by
  have hhash : (name ++ rest).head? ≠ some '#' := by
    obtain ⟨c, name, rfl⟩ := List.exists_cons_of_ne_nil hne
    intro hc
    have hchar := h.chars c List.mem_cons_self
    rw [Option.some.inj hc] at hchar
    exact absurd hchar (by decide)
  have hempty : name.isEmpty = false := by simpa using hne
  have hrun := h.takeWhile_take
  unfold reference?
  split
  · next heq => exact absurd (by rw [heq]; rfl) hhash
  · simp only [hrun, hempty, List.drop_left]
    rfl

end Name

section Table

variable {cs value out : List Char} {name : String} {n : Nat}

theorem getLast?_ne_semicolon {name : List Char} (hn : ∀ c ∈ name, isNameChar c = true) :
    name.getLast? ≠ some ';' := by
  intro hlast
  have hchar := hn ';' (List.mem_of_getLast? hlast)
  exact absurd hchar (by decide)

/-- The names that do without a semicolon are short, and each stands for one character. -/
theorem unterminated_spec (h : name ∈ unterminated) :
    (∀ c ∈ name.toList, isNameChar c = true) ∧ 2 ≤ name.toList.length ∧ name.toList.length ≤ 32 ∧
      ∃ c, ofName? name.toList = some [c] := by
  have hall : (unterminated.all fun name => name.toList.all isNameChar && 2 ≤ name.toList.length &&
      name.toList.length ≤ 32 && (name.toList.head?.bind fun c => (namesFrom c).lookup name).map
        List.length == some 1) = true := by
    decide +kernel
  have hname := List.all_eq_true.1 hall name h
  simp only [Bool.and_eq_true, List.all_eq_true, decide_eq_true_eq, beq_iff_eq] at hname
  obtain ⟨⟨⟨hchars, hlow⟩, hhigh⟩, hone⟩ := hname
  refine ⟨hchars, hlow, hhigh, ?_⟩
  obtain ⟨value, hvalue, hlength⟩ := Option.map_eq_some_iff.1 hone
  obtain ⟨n, rfl⟩ := List.length_eq_one_iff.1 hlength
  obtain ⟨c, hc, hlookup⟩ := Option.bind_eq_some_iff.1 hvalue
  obtain ⟨rest, hrest⟩ := List.head?_eq_some_iff.1 hc
  have hkey : String.ofList (c :: rest) = name := by rw [← hrest, String.ofList_toList]
  have hlast := getLast?_ne_semicolon hchars
  rw [hrest] at hlast ⊢
  refine ⟨Char.ofNat n, ?_⟩
  simp [ofName?, hlast, hkey, h, hlookup]

theorem mem_unterminated_of_ofName? (h : ofName? cs = some value) (hs : cs.getLast? ≠ some ';') :
    String.ofList cs ∈ unterminated := by
  cases cs with
  | nil => cases h
  | cons c cs =>
    simp only [ofName?, hs, decide_false, Bool.false_or, if_false] at h
    split at h
    · next hmem => exact List.contains_iff_mem.1 hmem
    · cases h

theorem exists_of_longest? (h : longest? cs n = some out) : ∃ k, 2 ≤ k ∧ k ≤ n ∧
    (∃ value, ofName? (cs.take k) = some value ∧ out = value ++ cs.drop k) ∧
    ∀ j, k < j → j ≤ n → ofName? (cs.take j) = none := by
  fun_induction longest? cs n with
  | case1 => cases h
  | case2 => cases h
  | case3 n value hvalue =>
    exact ⟨n + 2, by omega, le_rfl, ⟨value, hvalue, (Option.some.inj h).symm⟩, by omega⟩
  | case4 n hnone ih =>
    obtain ⟨k, hlow, hhigh, hk, hlongest⟩ := ih h
    refine ⟨k, hlow, by omega, hk, fun j hj hle => ?_⟩
    rcases Nat.lt_or_ge j (n + 2) with hlt | hge
    · exact hlongest j hj (by omega)
    · rwa [show j = n + 2 by omega]

theorem ofName?_of_longest?_eq_none (h : longest? cs n = none) {k : Nat} (hlow : 2 ≤ k) (hhigh : k ≤ n) :
    ofName? (cs.take k) = none := by
  fun_induction longest? cs n with
  | case1 => omega
  | case2 => omega
  | case3 => cases h
  | case4 n hnone ih =>
    rcases Nat.lt_or_ge k (n + 2) with hlt | hge
    · exact ih h (by omega)
    · rwa [show k = n + 2 by omega]

end Table

section Cases

variable {ref value cs rest : List Char}

/-- A reference that ends in a semicolon is read as a whole, unless it is too long. -/
theorem Terminated.reference?_append (h : Terminated ref value) (hshort : ¬Overlong (ref ++ rest)) :
    reference? (ref ++ rest) = .ok (some (value, rest)) := by
  cases h with
  | @number mark ds base isDigit hb hne hd =>
    have hstop : ∀ c, (';' :: rest).head? = some c → isDigit c = false := by
      rintro c hc
      cases hc
      cases hb <;> rfl
    rw [List.append_assoc, List.singleton_append] at hshort ⊢
    rw [reference?_number hb hne hd hstop, numberOf_of_not_overlong hb hd hshort]
    rfl
  | @name name _ hl hn hvalue =>
    have hrun : IsNameRun name (';' :: rest) :=
      ⟨hn, hl, Or.inr fun c hc => by cases hc; rfl⟩
    have hne : name ≠ [] := by
      rintro rfl
      cases hvalue
    rw [List.append_assoc, List.singleton_append, reference?_name hrun hne]
    simp only [splitSemicolon, named, hvalue]

theorem Base.not_mem {mark : List Char} {base : Nat} {isDigit : Char → Bool} (hb : Base mark base isDigit) :
    '&' ∉ mark ∧ isDigit '&' = false := by
  cases hb with
  | decimal => exact ⟨by decide, rfl⟩
  | hexadecimal hx => rcases hx with rfl | rfl <;> exact ⟨by decide, rfl⟩

theorem Terminated.not_mem (h : Terminated ref value) : '&' ∉ ref := by
  cases h with
  | number hb hne hd =>
    obtain ⟨hmark, hdigit⟩ := hb.not_mem
    simp only [List.mem_append, List.mem_singleton, not_or]
    exact ⟨⟨hmark, fun hmem => by simp [hd '&' hmem] at hdigit⟩, by decide⟩
  | name hl hn hvalue =>
    rw [List.mem_append, List.mem_singleton, not_or]
    exact ⟨fun hmem => absurd (hn '&' hmem) (by decide), by decide⟩

theorem Terminated.semicolon_mem (h : Terminated ref value) : ';' ∈ ref := by
  cases h <;> simp

theorem length_ofNumber_le (n : Nat) : (ofNumber n).length ≤ 1 := by
  unfold ofNumber
  split_ifs <;> simp

/-- What names are looked up for without a semicolon. -/
theorem ofName?_of_chars {name : List Char} (hn : ∀ c ∈ name, isNameChar c = true)
    (h : ofName? name = some value) :
    String.ofList name ∈ unterminated ∧ ∃ c, value = [c] := by
  have hmem := mem_unterminated_of_ofName? h (getLast?_ne_semicolon hn)
  obtain ⟨-, -, -, c, hc⟩ := unterminated_spec hmem
  rw [String.toList_ofList, h] at hc
  exact ⟨hmem, c, Option.some.inj hc⟩

/-- A name that is not known as a whole is read by its longest known start, if there is one. -/
theorem named_cases {name semicolon : List Char} (hn : ∀ c ∈ name, isNameChar c = true)
    (hs : semicolon = [] ∨ semicolon = [';'] ∧ ofName? (name ++ semicolon) = none) :
    ((∃ key ∈ unterminated, key.toList <+: name) ∧
      (named (name ++ semicolon)).length ≤ (name ++ semicolon).length) ∨
    (∀ key ∈ unterminated, ¬key.toList <+: name) ∧
      named (name ++ semicolon) = '&' :: (name ++ semicolon) := by
  have hlength : (name ++ semicolon).length ≤ name.length + 1 := by
    rcases hs with rfl | ⟨rfl, -⟩ <;> simp
  cases hwhole : ofName? (name ++ semicolon) with
  | some value =>
    obtain rfl : semicolon = [] := hs.resolve_right (by simp [hwhole])
    rw [List.append_nil] at hwhole ⊢
    obtain ⟨hmem, c, rfl⟩ := ofName?_of_chars hn hwhole
    obtain ⟨-, hlow, -⟩ := unterminated_spec hmem
    rw [String.toList_ofList] at hlow
    refine Or.inl ⟨⟨_, hmem, by simp only [String.toList_ofList, List.prefix_rfl]⟩, ?_⟩
    simp only [named, hwhole, List.length_singleton]
    omega
  | none =>
    cases hlongest : longest? (name ++ semicolon) ((name ++ semicolon).length - 1) with
    | some out =>
      obtain ⟨k, hlow, hhigh, ⟨value, hvalue, rfl⟩, -⟩ := exists_of_longest? hlongest
      rw [List.take_append_of_le_length (by omega)] at hvalue
      obtain ⟨hmem, c, rfl⟩ := ofName?_of_chars (fun c hc => hn c (List.mem_of_mem_take hc)) hvalue
      refine Or.inl ⟨⟨_, hmem, by rw [String.toList_ofList]; exact List.take_prefix k name⟩, ?_⟩
      have hnamed : named (name ++ semicolon) = [c] ++ (name ++ semicolon).drop k := by
        simp only [named, hwhole, hlongest, Option.getD_some]
      rw [hnamed]
      simp only [List.length_append, List.length_drop, List.length_singleton] at hhigh ⊢
      omega
    | none =>
      refine Or.inr ⟨?_, by simp only [named, hwhole, hlongest, Option.getD_none]⟩
      intro key hkey hstart
      obtain ⟨-, hlow, -, c, hc⟩ := unterminated_spec hkey
      have htake : (name ++ semicolon).take key.toList.length = key.toList := by
        rw [List.take_append_of_le_length hstart.length_le]
        exact (List.prefix_iff_eq_take.1 hstart).symm
      rcases Nat.lt_or_ge key.toList.length (name ++ semicolon).length with hlt | hge
      · have hnone := ofName?_of_longest?_eq_none hlongest hlow (by omega)
        rw [htake, hc] at hnone
        cases hnone
      · rw [List.take_of_length_le hge] at htake
        rw [htake, hc] at hwhole
        cases hwhole

/-- A name that no reference with a semicolon makes up is not known with its semicolon. -/
theorem IsNameRun.exists_semicolon {name : List Char} (h : IsNameRun name rest) (hne : name ≠ [])
    (hno : ∀ ref value, Terminated ref value → ¬ref <+: name ++ rest) :
    ∃ semicolon after, rest = semicolon ++ after ∧
      reference? (name ++ rest) = .ok (some (named (name ++ semicolon), after)) ∧
      '&' ∉ name ++ semicolon ∧
      (semicolon = [] ∨ semicolon = [';'] ∧ ofName? (name ++ semicolon) = none) := by
  have hread := reference?_name h hne
  have hamp : '&' ∉ name := fun hmem => absurd (h.chars '&' hmem) (by decide)
  rcases splitSemicolon_cases rest with hsplit | ⟨after, rfl, hsplit⟩
  · rw [hsplit] at hread
    exact ⟨[], rest, rfl, hread, by simpa using hamp, Or.inl rfl⟩
  · rw [hsplit] at hread
    refine ⟨[';'], after, rfl, hread, by simpa using hamp, Or.inr ⟨rfl, ?_⟩⟩
    by_contra hknown
    obtain ⟨value, hvalue⟩ := Option.ne_none_iff_exists'.1 hknown
    exact hno _ _ (.name h.length_le h.chars hvalue) ⟨after, by simp⟩

/-- An ampersand after which something opens, but is not ended by a semicolon, is read as a reference
that is shorter than its text. -/
theorem exists_of_opens (h : Opens cs) (hno : ∀ ref value, Terminated ref value → ¬ref <+: cs)
    (hshort : ¬Overlong cs) : ∃ out consumed rest, reference? cs = .ok (some (out, rest)) ∧
      cs = consumed ++ rest ∧ '&' ∉ consumed ∧ out.length ≤ consumed.length := by
  cases h with
  | @number mark more d base isDigit hb hd =>
    obtain ⟨ds, rest, rfl, hall, hstop⟩ := exists_digits_append isDigit more
    have hds : ∀ c ∈ d :: ds, isDigit c = true := List.forall_mem_cons.2 ⟨hd, hall⟩
    have hcs : mark ++ d :: (ds ++ rest) = mark ++ (d :: ds) ++ rest := by
      rw [List.append_assoc, List.cons_append]
    rw [hcs] at hshort hno ⊢
    have hread := reference?_number hb (List.cons_ne_nil d ds) hds hstop
    rw [numberOf_of_not_overlong hb hds hshort] at hread
    -- a semicolon here would have ended the reference
    have hsplit : splitSemicolon rest = ([], rest) := by
      rcases splitSemicolon_cases rest with hsplit | ⟨after, rfl, -⟩
      · exact hsplit
      · exact absurd ⟨after, by simp⟩ (hno _ _ (.number hb (List.cons_ne_nil d ds) hds))
    rw [hsplit] at hread
    obtain ⟨hmark, hdigit⟩ := hb.not_mem
    refine ⟨_, _, _, hread, rfl, ?_, ?_⟩
    · rw [List.mem_append, not_or]
      exact ⟨hmark, fun hmem => by simp [hds '&' hmem] at hdigit⟩
    · have hone := length_ofNumber_le (valueOf base (d :: ds))
      simp only [List.length_append, List.length_cons]
      omega
  | @name key rest hkey =>
    obtain ⟨hchars, hlow, hhigh, -⟩ := unterminated_spec hkey
    obtain ⟨name, after, hcs, hrun⟩ := exists_isNameRun (key.toList ++ rest)
    have hstart : key.toList <+: name := hrun.prefix_of_append hchars hhigh ⟨rest, hcs⟩
    have hne : name ≠ [] := by
      rintro rfl
      simp [List.prefix_nil.1 hstart] at hlow
    rw [hcs] at hno ⊢
    obtain ⟨semicolon, after, rfl, hread, hamp, hs⟩ := hrun.exists_semicolon hne hno
    refine ⟨_, name ++ semicolon, after, hread, by rw [List.append_assoc], hamp, ?_⟩
    obtain ⟨-, hshort⟩ | ⟨hnone, -⟩ := named_cases hrun.chars hs
    · exact hshort
    · exact absurd hstart (hnone key hkey)

theorem takeWhile_eq_nil_of_not_startsNumber {mark rest : List Char} {base : Nat}
    {isDigit : Char → Bool} (hb : Base mark base isDigit) (h : ¬StartsNumber (mark ++ rest)) :
    rest.takeWhile isDigit = [] := by
  cases rest with
  | nil => rfl
  | cons d rest =>
    exact List.takeWhile_cons_of_neg fun hd => h ⟨mark, base, isDigit, d, rest, hb, hd, rfl⟩

theorem reference?_eq_ok_none (h : ¬StartsNumber cs) (hrun : IsNameRun [] cs) :
    reference? cs = .ok none := by
  unfold reference?
  split
  · next x rest =>
    cases hx : (x = 'x' || x = 'X' : Bool) with
    | true =>
      have hnone := takeWhile_eq_nil_of_not_startsNumber (.hexadecimal (by simpa using hx)) h
      simp only [hexDigits, List.span_eq_takeWhile_dropWhile, hnone, if_true]
      rfl
    | false =>
      have hnone := takeWhile_eq_nil_of_not_startsNumber .decimal h
      simp only [decimalDigits, List.span_eq_takeWhile_dropWhile, hnone]
      rfl
  · have hempty := hrun.takeWhile_take
    rw [List.nil_append] at hempty
    simp only [hempty]
    rfl

theorem StartsNumber.opens (h : StartsNumber cs) : Opens cs := by
  obtain ⟨mark, base, isDigit, d, rest, hb, hd, rfl⟩ := h
  exact .number hb hd

/-- An ampersand after which nothing opens stands for itself, with what is read as its name. -/
theorem exists_of_not_opens (h : ¬Opens cs) (hno : ∀ ref value, Terminated ref value → ¬ref <+: cs) :
    ∃ consumed rest, cs = consumed ++ rest ∧ '&' ∉ consumed ∧
      (reference? cs = .ok none ∧ consumed = [] ∨
        reference? cs = .ok (some ('&' :: consumed, rest))) := by
  obtain ⟨name, rest, rfl, hrun⟩ := exists_isNameRun cs
  by_cases hne : name = []
  · subst hne
    exact ⟨[], rest, rfl, by simp, Or.inl ⟨reference?_eq_ok_none (fun hn => h hn.opens) hrun, rfl⟩⟩
  · obtain ⟨semicolon, after, rfl, hread, hamp, hs⟩ := hrun.exists_semicolon hne hno
    obtain ⟨⟨key, hkey, tail, rfl⟩, -⟩ | ⟨-, hself⟩ := named_cases hrun.chars hs
    · exact absurd (by rw [List.append_assoc]; exact .name hkey) h
    · rw [hself] at hread
      exact ⟨name ++ semicolon, after, by rw [List.append_assoc], hamp, Or.inr hread⟩

end Cases

end MarkupCensus.CharRef
