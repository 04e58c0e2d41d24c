import MarkupCensus.Proofs.CharacterReferences

namespace MarkupCensus.CharRef

/-- What a name stands for: what the longest start of it that is known stands for, and what is left of
it. A name of which nothing is known stands for itself. -/
inductive Names : List Char → List Char → Prop
  | known {key more value : List Char} (h : ofName? key = some value)
    (hlongest : ∀ longer, longer <+: key ++ more → key.length < longer.length →
      ofName? longer = none) : Names (key ++ more) (value ++ more)
  | unknown {name : List Char} (h : ∀ key, key <+: name → ofName? key = none) :
    Names name ('&' :: name)

/-- A semicolon that stands after a reference belongs to it. -/
def TakesSemicolon (semicolon rest : List Char) : Prop :=
  semicolon = [';'] ∨ semicolon = [] ∧ rest.head? ≠ some ';'

/-- A text with its references replaced, as HTML reads them. -/
inductive Unescapes : List Char → List Char → Prop
  | nil : Unescapes [] []
  | plain {c : Char} {cs out : List Char} (hc : c ≠ '&') (h : Unescapes cs out) :
    Unescapes (c :: cs) (c :: out)
  | number {mark ds semicolon rest out : List Char} {base : Nat} {isDigit : Char → Bool}
    (hb : Base mark base isDigit) (hne : ds ≠ []) (hd : ∀ c ∈ ds, isDigit c = true)
    (hfit : base = 10 → ds.length ≤ digitLimit)
    (hstop : ∀ c, (semicolon ++ rest).head? = some c → isDigit c = false)
    (hs : TakesSemicolon semicolon rest) (h : Unescapes rest out) :
    Unescapes ('&' :: (mark ++ ds ++ (semicolon ++ rest))) (ofNumber (valueOf base ds) ++ out)
  | name {name semicolon rest value out : List Char} (hne : name ≠ [])
    (hrun : IsNameRun name (semicolon ++ rest)) (hs : TakesSemicolon semicolon rest)
    (hvalue : Names (name ++ semicolon) value) (h : Unescapes rest out) :
    Unescapes ('&' :: (name ++ (semicolon ++ rest))) (value ++ out)
  | bare {cs out : List Char} (hname : IsNameRun [] cs) (hnumber : ¬StartsNumber cs)
    (h : Unescapes cs out) : Unescapes ('&' :: cs) ('&' :: out)

section Names

variable {name value other : List Char}

theorem Names.unique (hv : Names name value) (ho : Names name other) : value = other := by
  cases hv with
  | @known key more value hkey hlongest =>
    generalize hwhole : key ++ more = whole at ho hlongest
    cases ho with
    | @known key' more' value' hkey' hlongest' =>
      have hp : key <+: key' ++ more' := ⟨more, hwhole⟩
      have hp' : key' <+: key' ++ more' := List.prefix_append key' more'
      -- neither of the two is longer than the other
      have hle : ¬key.length < key'.length := by
        intro hlt
        rw [hlongest key' hp' hlt] at hkey'
        cases hkey'
      have hge : ¬key'.length < key.length := by
        intro hlt
        rw [hlongest' key hp hlt] at hkey
        cases hkey
      obtain ⟨rfl, rfl⟩ := List.append_inj hwhole (by omega)
      rw [Option.some.inj (hkey.symm.trans hkey')]
    | unknown h =>
      rw [h key ⟨more, hwhole⟩] at hkey
      cases hkey
  | unknown h =>
    cases ho with
    | known hkey _ =>
      rw [h _ (List.prefix_append _ _)] at hkey
      cases hkey
    | unknown _ => rfl

/-- A single character is no name. -/
theorem ofName?_of_length_lt (hn : ∀ c ∈ name, isNameChar c = true) (h : name.length < 2) :
    ofName? name = none := by
  cases hvalue : ofName? name with
  | none => rfl
  | some value =>
    obtain ⟨-, hlow, -⟩ := unterminated_spec (ofName?_of_chars hn hvalue).1
    rw [String.toList_ofList] at hlow
    omega

/-- A text of which the whole is no name has a start that is one only if it is shorter. -/
theorem ofName?_of_prefix {key whole : List Char} (hwhole : ofName? whole = none) (hp : key <+: whole)
    (h : key.length < whole.length → ofName? (whole.take key.length) = none) : ofName? key = none := by
  rw [List.prefix_iff_eq_take.1 hp]
  rcases Nat.lt_or_ge key.length whole.length with hless | hge
  · exact h hless
  · rwa [List.take_of_length_le hge]

theorem names_named (hn : ∀ c ∈ name, isNameChar c = true) (hne : name ≠ []) (semicolon : List Char) :
    Names (name ++ semicolon) (named (name ++ semicolon)) := by
  have hpos := List.length_pos_iff.2 hne
  have hshort (key : List Char) (hp : key <+: name ++ semicolon) (hlt : key.length < 2) :
      ofName? key = none := by
    have hstart : key <+: name :=
      List.prefix_of_prefix_length_le hp (List.prefix_append name semicolon) (by omega)
    exact ofName?_of_length_lt (fun c hc => hn c (hstart.subset hc)) hlt
  generalize name ++ semicolon = whole at hshort
  unfold named
  cases hwhole : ofName? whole with
  | some value =>
    have hnames := @Names.known whole [] value hwhole fun longer hp hlt => by
      have hle := hp.length_le
      rw [List.append_nil] at hle
      omega
    rwa [List.append_nil, List.append_nil] at hnames
  | none =>
    cases hlongest : longest? whole (whole.length - 1) with
    | some out =>
      obtain ⟨k, hlow, hhigh, ⟨value, hvalue, rfl⟩, hmax⟩ := exists_of_longest? hlongest
      have hnames := @Names.known (whole.take k) (whole.drop k) value hvalue ?_
      · rwa [List.take_append_drop] at hnames
      · intro longer hp hlt
        rw [List.take_append_drop] at hp
        rw [List.length_take, Nat.min_eq_left (by omega)] at hlt
        exact ofName?_of_prefix hwhole hp fun hless => hmax _ hlt (by omega)
    | none =>
      refine .unknown fun key hp => ?_
      rcases Nat.lt_or_ge key.length 2 with hlt | hle
      · exact hshort key hp hlt
      · exact ofName?_of_prefix hwhole hp fun hless =>
          ofName?_of_longest?_eq_none hlongest hle (by omega)

end Names

section Unescapes

variable {cs rest semicolon out : List Char}

theorem TakesSemicolon.splitSemicolon_eq (h : TakesSemicolon semicolon rest) :
    splitSemicolon (semicolon ++ rest) = (semicolon, rest) := by
  obtain rfl | ⟨rfl, hne⟩ := h
  · rfl
  · exact splitSemicolon_of_ne hne

theorem exists_takesSemicolon (cs : List Char) :
    ∃ semicolon rest, cs = semicolon ++ rest ∧ TakesSemicolon semicolon rest := by
  by_cases h : cs.head? = some ';'
  · obtain ⟨rest, rfl⟩ := List.head?_eq_some_iff.1 h
    exact ⟨[';'], rest, rfl, Or.inl rfl⟩
  · exact ⟨[], cs, rfl, Or.inr ⟨rfl, h⟩⟩

theorem Unescapes.unescape_eq (h : Unescapes cs out) : unescape cs = .ok out := by
  induction h with
  | nil => rfl
  | plain hc _ ih =>
    rw [unescape_cons_of_ne hc, ih]
    rfl
  | @number mark ds semicolon rest out base isDigit hb hne hd hfit hstop hs _ ih =>
    have hnumber : numberOf base ds = .ok (valueOf base ds) := by
      refine if_neg ?_
      rintro ⟨hten, hlong⟩
      have hle := hfit hten
      omega
    have hread := reference?_number hb hne hd hstop
    rw [hnumber, hs.splitSemicolon_eq] at hread
    rw [unescape_of_reference? hread, ih]
    rfl
  | @name name semicolon rest value out hne hrun hs hvalue _ ih =>
    have hread := reference?_name hrun hne
    have hnames := names_named hrun.chars hne semicolon
    rw [hs.splitSemicolon_eq, hnames.unique hvalue] at hread
    rw [unescape_of_reference? hread, ih]
    rfl
  | bare hname hnumber _ ih =>
    rw [unescape_of_reference?_eq_none (reference?_eq_ok_none hnumber hname), ih]
    rfl

/-- A number that can be read is taken as a whole, with the semicolon after it. -/
theorem exists_unescapes_number (hnumber : StartsNumber cs) (hshort : ¬Overlong cs)
    (hbelow : ∀ taken rest, cs = taken ++ rest → ∃ out, Unescapes rest out) :
    ∃ out, Unescapes ('&' :: cs) out := by
  obtain ⟨mark, base, isDigit, d, more, hb, hd, rfl⟩ := hnumber
  obtain ⟨ds, left, rfl, hall, hstop⟩ := exists_digits_append isDigit more
  obtain ⟨semicolon, rest, rfl, hs⟩ := exists_takesSemicolon left
  obtain ⟨out, hout⟩ := hbelow (mark ++ d :: (ds ++ semicolon)) rest (by simp)
  have hcs : mark ++ d :: (ds ++ (semicolon ++ rest)) =
      mark ++ (d :: ds) ++ (semicolon ++ rest) := by
    rw [List.append_assoc, List.cons_append]
  rw [hcs] at hshort ⊢
  have hds : ∀ c ∈ d :: ds, isDigit c = true := List.forall_mem_cons.2 ⟨hd, hall⟩
  refine ⟨_, .number hb (List.cons_ne_nil d ds) hds ?_ hstop hs hout⟩
  intro hten
  by_contra hlong
  have hread := numberOf_of_not_overlong hb hds hshort
  rw [numberOf, if_pos ⟨hten, by omega⟩] at hread
  cases hread

theorem exists_unescapes_amp (hshort : ¬Overlong cs)
    (hbelow : ∀ taken rest, cs = taken ++ rest → ∃ out, Unescapes rest out) :
    ∃ out, Unescapes ('&' :: cs) out := by
  by_cases hnumber : StartsNumber cs
  · exact exists_unescapes_number hnumber hshort hbelow
  · obtain ⟨name, left, rfl, hrun⟩ := exists_isNameRun cs
    by_cases hne : name = []
    · subst hne
      obtain ⟨out, hout⟩ := hbelow [] left rfl
      exact ⟨_, .bare hrun hnumber hout⟩
    · obtain ⟨semicolon, rest, rfl, hs⟩ := exists_takesSemicolon left
      obtain ⟨out, hout⟩ := hbelow (name ++ semicolon) rest (by simp)
      exact ⟨_, .name hne hrun hs (names_named hrun.chars hne semicolon) hout⟩

theorem exists_unescapes (h : AllReadable cs) : ∃ out, Unescapes cs out := by
  induction hn : cs.length using Nat.strong_induction_on generalizing cs with
  | _ n ih =>
    cases cs with
    | nil => exact ⟨[], .nil⟩
    | cons c cs =>
      rw [List.length_cons] at hn
      obtain ⟨hhead, htail⟩ := atAmpersands_cons_iff.1 h
      by_cases hc : c = '&'
      · subst hc
        refine exists_unescapes_amp (hhead rfl) ?_
        rintro taken rest rfl
        refine ih rest.length (by rw [List.length_append] at hn; omega) ?_ rfl
        intro before after hrest
        exact htail (taken ++ before) after (by rw [hrest, List.append_assoc])
      · obtain ⟨out, hout⟩ := ih cs.length (by omega) htail rfl
        exact ⟨_, .plain hc hout⟩

/-- What a text is read as. -/
theorem unescape_eq_ok_iff : unescape cs = .ok out ↔ Unescapes cs out := by
  constructor
  · intro h
    rcases unescape_cases cs with ⟨hall, -⟩ | ⟨-, digits, -, herror⟩
    · obtain ⟨value, hvalue⟩ := exists_unescapes hall
      rwa [Except.ok.inj (h.symm.trans hvalue.unescape_eq)]
    · cases herror.symm.trans h
  · exact Unescapes.unescape_eq

end Unescapes

end MarkupCensus.CharRef
