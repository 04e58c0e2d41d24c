import MarkupCensus.Proofs.JsonReader

namespace MarkupCensus.Json

theorem ofChar_eq {c : CodePoint} {x : Char} (h : c.val = x.toNat) : CodePoint.ofChar x = c :=
  Fin.ext h.symm

theorem unitOf?_hex : ∀ n : Fin 0x20, unitOf? (Quoted.hex 4 n.val) = some ⟨n.val, by omega⟩ := by
  decide

/-- A character that is no quote, backslash or control character stands for itself. -/
theorem readUnits_plain {x : Char} (hquote : x ≠ '"') (hslash : x ≠ '\\') (hcontrol : 0x20 ≤ x.toNat)
    (rest : List Char) :
    readUnits (x :: rest) = (readUnits rest).map fun r => (CodePoint.ofChar x :: r.1, r.2) := by
  rw [readUnits]
  · rw [if_neg (by omega)]
    cases readUnits rest <;> rfl
  · intro h
    exact absurd h hquote
  · intro a b c d rest h
    exact absurd h hslash
  · intro c rest h
    exact absurd h hslash

theorem readUnits_escape {x y : Char} (h : escapeOf? x = some y) (rest : List Char) :
    readUnits ('\\' :: x :: rest) = (readUnits rest).map fun r => (CodePoint.ofChar y :: r.1, r.2) := by
  rw [readUnits]
  · rw [h]
    cases readUnits rest <;> rfl
  · rintro a b c d rest rfl
    cases h

theorem readUnits_unit {u : CodePoint} {a b c d : Char} (h : unitOf? [a, b, c, d] = some u)
    (rest : List Char) : readUnits ('\\' :: 'u' :: a :: b :: c :: d :: rest) =
      (readUnits rest).map fun r => (u :: r.1, r.2) := by
  rw [readUnits, h]
  cases readUnits rest <;> rfl

/-- What is written for a character is read as the character. -/
theorem readUnits_escaped {c : CodePoint} {cs : List Char}
    (h : Text.chars? (Document.escaped c) = some cs) (rest : List Char) :
    readUnits (cs ++ rest) = (readUnits rest).map fun r => (c :: r.1, r.2) := by
  have hascii {s : String} (h : Text.chars? (Document.ascii s) = some cs) : cs = s.toList := by
    rw [Document.ascii, Text.chars?_ofString] at h
    exact (Option.some.inj h).symm
  simp only [Document.escaped, beq_iff_eq] at h
  -- the characters with a letter of their own, then those written by number, then all others
  split_ifs at h with h1 h2 h3 h4 h5 h6 h7 h8
  · rw [hascii h, ← ofChar_eq (x := '"') h1]
    exact readUnits_escape rfl rest
  · rw [hascii h, ← ofChar_eq (x := '\\') h2]
    exact readUnits_escape rfl rest
  · rw [hascii h, ← ofChar_eq (x := '\n') h3]
    exact readUnits_escape rfl rest
  · rw [hascii h, ← ofChar_eq (x := '\r') h4]
    exact readUnits_escape rfl rest
  · rw [hascii h, ← ofChar_eq (x := '\t') h5]
    exact readUnits_escape rfl rest
  · rw [hascii h, ← ofChar_eq (x := Char.ofNat 0x08) h6]
    exact readUnits_escape rfl rest
  · rw [hascii h, ← ofChar_eq (x := Char.ofNat 0x0C) h7]
    exact readUnits_escape rfl rest
  · rw [hascii h, String.toList_ofList]
    exact readUnits_unit (unitOf?_hex ⟨c.val, h8⟩) rest
  · obtain ⟨x, hx, hnil⟩ := Option.bind_eq_some_iff.1 ((Text.chars?_cons c []).symm.trans h)
    obtain rfl : [x] = cs := Option.some.inj hnil
    obtain rfl := CodePoint.ofChar_of_toChar? hx
    apply readUnits_plain
    · rintro rfl
      exact h1 rfl
    · rintro rfl
      exact h2 rfl
    · exact Nat.le_of_not_lt h8

theorem joinPairs_cons {c : CodePoint} (hc : c.isSurrogate = false) (t : Text) :
    joinPairs (c :: t) = (joinPairs t).map (c :: ·) := by
  cases t <;> simp [joinPairs, hc]

/-- A text without surrogates has no pairs to join. -/
theorem joinPairs_of_no_surrogate {t : Text} (h : t.hasSurrogate = false) : joinPairs t = some t := by
  induction t with
  | nil => rfl
  | cons c t ih =>
    obtain ⟨hc, ht⟩ := Bool.or_eq_false_iff.1 h
    rw [joinPairs_cons hc, ih ht]
    rfl

theorem readUnits_body {t : Text} {cs : List Char}
    (h : Text.chars? (t.flatMap Document.escaped) = some cs) (rest : List Char) :
    readUnits (cs ++ '"' :: rest) = some (t, rest) := by
  induction t generalizing cs with
  | nil =>
    cases h
    rfl
  | cons c t ih =>
    rw [List.flatMap_cons, Text.chars?_append] at h
    obtain ⟨a, ha, hmap⟩ := Option.bind_eq_some_iff.1 h
    obtain ⟨b, hb, rfl⟩ := Option.map_eq_some_iff.1 hmap
    rw [List.append_assoc, readUnits_escaped ha, ih hb]
    rfl

/-- What is written for a text is read as the text. -/
theorem readString_quoted {t : Text} {cs : List Char}
    (h : Text.chars? (Document.quoted t) = some cs) :
    ∃ body, cs = '"' :: body ∧ ∀ rest, readString (body ++ rest) = some (t, rest) := by
  have hsurrogate : t.hasSurrogate = false := by
    have := Document.isSome_chars?_quoted t
    simpa [h] using this
  rw [Document.quoted, List.append_assoc, Text.chars?_append, Text.chars?_append] at h
  simp only [Document.ascii, Text.chars?_ofString, Option.bind_some] at h
  obtain ⟨inner, hinner, rfl⟩ := Option.map_eq_some_iff.1 h
  obtain ⟨body, hbody, hclose⟩ := Option.bind_eq_some_iff.1 hinner
  obtain rfl : body ++ "\"".toList = inner := Option.some.inj hclose
  refine ⟨body ++ ['"'], rfl, fun rest => ?_⟩
  rw [List.append_assoc, List.singleton_append]
  simp [readString, readUnits_body hbody rest, joinPairs_of_no_surrogate hsurrogate]

end MarkupCensus.Json
