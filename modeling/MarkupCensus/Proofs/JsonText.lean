import MarkupCensus.Proofs.JsonNumbers
import MarkupCensus.Proofs.JsonStrings

namespace MarkupCensus

/-- Whether a value is other than an infinity and NaN, which JSON has no numbers for. -/
def Value.isFinite : Value → Bool
  | .number (.real (.infinite _)) => false
  | .number (.real .nan) => false
  | _ => true

/-- Whether a value is in the form that rounding gives a number. -/
def Value.IsRounded : Value → Prop
  | .number (.real x) => x.IsRounded
  | _ => True

namespace Document

def isFinite (d : Document) : Bool := d.values.all Value.isFinite

theorem bind_append_eq_some {x y : Option (List Char)} {cs : List Char} :
    (x.bind fun a => y.map (a ++ ·)) = some cs ↔ ∃ a b, x = some a ∧ y = some b ∧ cs = a ++ b := by
  constructor
  · intro h
    obtain ⟨a, ha, hmap⟩ := Option.bind_eq_some_iff.1 h
    obtain ⟨b, hb, rfl⟩ := Option.map_eq_some_iff.1 hmap
    exact ⟨a, b, ha, hb, rfl⟩
  · rintro ⟨a, b, ha, hb, rfl⟩
    rw [ha, hb]
    rfl

theorem charsOf_append_eq_some {ts us : List Token} {cs : List Char} :
    charsOf (ts ++ us) = some cs ↔
      ∃ a b, charsOf ts = some a ∧ charsOf us = some b ∧ cs = a ++ b := by
  rw [charsOf_append]
  exact bind_append_eq_some

theorem charsOf_token_eq_some {s : String} {ts : List Token} {cs : List Char} :
    charsOf (token s :: ts) = some cs ↔ ∃ b, charsOf ts = some b ∧ cs = s.toList ++ b := by
  rw [charsOf_token, Option.map_eq_some_iff]
  simp only [eq_comm]

/-- The characters of a line break and the indentation of a level. -/
def newlineChars (level : Nat) : List Char := '\n' :: List.replicate (2 * level) ' '

theorem charsOf_some_eq_some {t : Text} {ts : List Token} {cs : List Char} :
    charsOf (some t :: ts) = some cs ↔
      ∃ a b, t.chars? = some a ∧ charsOf ts = some b ∧ cs = a ++ b := by
  rw [charsOf, Option.bind_some]
  exact bind_append_eq_some

theorem charsOf_newline_eq_some {level : Nat} {ts : List Token} {cs : List Char} :
    charsOf (some (newline level) :: ts) = some cs ↔
      ∃ b, charsOf ts = some b ∧ cs = newlineChars level ++ b := by
  simp [charsOf_some_eq_some, newline, ascii, newlineChars]

theorem charsOf_quoted_eq_some {t : Text} {ts : List Token} {cs : List Char} :
    charsOf (some (quoted t) :: ts) = some cs ↔
      ∃ a b, (quoted t).chars? = some a ∧ charsOf ts = some b ∧ cs = a ++ b :=
  charsOf_some_eq_some

/-- The characters of a field: its key, a colon and its value. -/
def fieldChars (key value : List Char) : List Char := key ++ (':' :: ' ' :: value)

theorem charsOf_list {level : Nat} {d : Document} {ds : List Document} {cs : List Char}
    (h : charsOf (tokens level (.list (d :: ds))) = some cs) :
    ∃ a b, charsOf (tokens (level + 1) d) = some a ∧ charsOf (itemTokens (level + 1) ds) = some b ∧
      cs = '[' :: (newlineChars (level + 1) ++ (a ++ (b ++ (newlineChars level ++ [']'])))) := by
  simp only [tokens, List.cons_append, List.append_assoc, charsOf_token_eq_some,
    charsOf_newline_eq_some, charsOf_append_eq_some, charsOf_nil] at h
  obtain ⟨_, ⟨_, ⟨a, _, ha, ⟨b, _, hb, ⟨_, ⟨_, hnil, rfl⟩, rfl⟩, rfl⟩, rfl⟩, rfl⟩, rfl⟩ := h
  cases hnil
  exact ⟨a, b, ha, hb, rfl⟩

theorem charsOf_items {level : Nat} {d : Document} {ds : List Document} {cs : List Char}
    (h : charsOf (itemTokens level (d :: ds)) = some cs) :
    ∃ a b, charsOf (tokens level d) = some a ∧ charsOf (itemTokens level ds) = some b ∧
      cs = ',' :: (newlineChars level ++ (a ++ b)) := by
  simp only [itemTokens, List.cons_append, charsOf_token_eq_some, charsOf_newline_eq_some,
    charsOf_append_eq_some] at h
  obtain ⟨_, ⟨_, ⟨a, b, ha, hb, rfl⟩, rfl⟩, rfl⟩ := h
  exact ⟨a, b, ha, hb, rfl⟩

theorem charsOf_object {level : Nat} {k : String} {d : Document} {fs : List (String × Document)}
    {cs : List Char} (h : charsOf (tokens level (.object ((k, d) :: fs))) = some cs) :
    ∃ key a b, Text.chars? (quoted (Text.ofString k)) = some key ∧
      charsOf (tokens (level + 1) d) = some a ∧ charsOf (fieldTokens (level + 1) fs) = some b ∧
      cs = '{' :: (newlineChars (level + 1) ++
        (fieldChars key a ++ (b ++ (newlineChars level ++ ['}'])))) := by
  simp only [tokens, List.cons_append, List.append_assoc, charsOf_token_eq_some,
    charsOf_newline_eq_some, charsOf_append_eq_some, charsOf_quoted_eq_some, charsOf_nil] at h
  obtain ⟨_, ⟨_, ⟨key, _, hkey, ⟨_, ⟨a, _, ha, ⟨b, _, hb, ⟨_, ⟨_, hnil, rfl⟩, rfl⟩, rfl⟩, rfl⟩, rfl⟩, rfl⟩,
    rfl⟩, rfl⟩ := h
  cases hnil
  exact ⟨key, a, b, hkey, ha, hb, by simp [fieldChars]⟩

theorem charsOf_fields {level : Nat} {k : String} {d : Document} {fs : List (String × Document)}
    {cs : List Char} (h : charsOf (fieldTokens level ((k, d) :: fs)) = some cs) :
    ∃ key a b, Text.chars? (quoted (Text.ofString k)) = some key ∧
      charsOf (tokens level d) = some a ∧ charsOf (fieldTokens level fs) = some b ∧
      cs = ',' :: (newlineChars level ++ (fieldChars key a ++ b)) := by
  simp only [fieldTokens, List.cons_append, charsOf_token_eq_some, charsOf_newline_eq_some,
    charsOf_append_eq_some, charsOf_quoted_eq_some] at h
  obtain ⟨_, ⟨_, ⟨key, _, hkey, ⟨_, ⟨a, b, ha, hb, rfl⟩, rfl⟩, rfl⟩, rfl⟩, rfl⟩ := h
  exact ⟨key, a, b, hkey, ha, hb, by simp [fieldChars]⟩

end Document

namespace Json

open Document (charsOf tokens itemTokens fieldTokens newlineChars fieldChars)

variable {cs rest : List Char} {steps : Nat}

theorem skip_newlineChars (level : Nat) (cs : List Char) : skip (newlineChars level ++ cs) = skip cs := by
  have hspaces : ∀ n : Nat, skip (List.replicate n ' ' ++ cs) = skip cs := by
    intro n
    induction n with
    | zero => rfl
    | succ n ih => exact ih
  exact hspaces (2 * level)

theorem readValue_newlineChars (steps level : Nat) (cs : List Char) :
    readValue steps (newlineChars level ++ cs) = readValue steps cs := by
  cases steps with
  | zero => rfl
  | succ steps => rw [readValue, readValue, skip_newlineChars]

theorem readValue_space (steps : Nat) (cs : List Char) :
    readValue steps (' ' :: cs) = readValue steps cs := by
  cases steps with
  | zero => rfl
  | succ steps => rfl

theorem readItems_newlineChars (steps level : Nat) (cs : List Char) :
    readItems steps (newlineChars level ++ cs) = readItems steps cs := by
  cases steps with
  | zero => rfl
  | succ steps => rw [readItems, readItems, skip_newlineChars]

theorem readFields_newlineChars (steps level : Nat) (cs : List Char) :
    readFields steps (newlineChars level ++ cs) = readFields steps cs := by
  cases steps with
  | zero => rfl
  | succ steps => rw [readFields, readFields, skip_newlineChars]

/-- The key of a field is read from its text. -/
theorem readKey_fieldChars {k : String} {key : List Char}
    (h : Text.chars? (Document.quoted (Text.ofString k)) = some key) (value rest : List Char) :
    readKey (fieldChars key value ++ rest) = some (k, ' ' :: (value ++ rest)) := by
  obtain ⟨body, rfl, hread⟩ := readString_quoted h
  have hchars : (Text.ofString k).toString? = some k := by
    rw [Text.toString?_eq, Text.chars?_ofString, Option.map_some, String.ofList_toList]
  have hbody := hread (':' :: ' ' :: (value ++ rest))
  simp [readKey, fieldChars, skip, isBlank, hbody, hchars]

/-- A number starts with a digit or a sign. -/
theorem head_of_readNumber {r : Number × List Char} (h : readNumber cs = some r) :
    ∃ c tail, cs = c :: tail ∧ (c.isDigit = true ∨ c = '-') := by
  cases cs with
  | nil => cases h
  | cons c tail =>
    refine ⟨c, tail, rfl, ?_⟩
    by_contra hc
    obtain ⟨hdigit, hsign⟩ := not_or.1 hc
    rw [readNumber] at h
    · have hspan : Numeral.spanDigits (c :: tail) = ([], c :: tail) := by
        simp [Numeral.spanDigits, List.span_eq_takeWhile_dropWhile, hdigit]
      simp [readUnsigned, hspan] at h
    · rintro _ heq
      cases heq
      exact hsign rfl

theorem isBlank_of_digit_or_sign {c : Char} (hc : c.isDigit = true ∨ c = '-') : isBlank c = false := by
  rcases hc with hc | rfl
  · rw [Bool.eq_false_iff]
    intro hblank
    simp only [isBlank, Bool.or_eq_true, beq_iff_eq] at hblank
    rcases hblank with ((rfl | rfl) | rfl) | rfl <;> cases hc
  · rfl

theorem readValue_of_readNumber {n : Number} (h : readNumber cs = some (n, rest)) :
    readValue (steps + 1) cs = some (.number n, rest) := by
  obtain ⟨c, tail, rfl, hc⟩ := head_of_readNumber h
  have hskip : skip (c :: tail) = c :: tail :=
    List.dropWhile_cons_of_neg (by simp [isBlank_of_digit_or_sign hc])
  rw [readValue, hskip]
  split
  case h_7 => rw [h]; rfl
  all_goals
    next heq =>
      cases heq
      rcases hc with hc | hc <;> cases hc

/-- A finite number is read from its text. -/
theorem readNumber_numberText {n : Number} {s : String} (h : Document.numberText? n = some s)
    (hr : (Value.number n).IsRounded) (hfinite : (Value.number n).isFinite = true)
    (hrest : Stops rest) : readNumber (s.toList ++ rest) = some (n, rest) := by
  cases n with
  | int n =>
    rw [Document.numberText?] at h
    split at h
    · cases h
      exact readNumber_toString n hrest
    · cases h
  | real x =>
    obtain rfl : Document.numberFormat.render x = s := Option.some.inj h
    cases x with
    | finite negative m e => exact readNumber_render hr hrest negative
    | infinite negative => cases hfinite
    | nan => cases hfinite

/-- The other numbers are written by words that are no JSON. -/
theorem text_of_not_isFinite {n : Number} {s : String} (h : Document.numberText? n = some s)
    (hfinite : (Value.number n).isFinite = false) : s = "Infinity" ∨ s = "-Infinity" ∨ s = "NaN" := by
  cases n with
  | int n => cases hfinite
  | real x =>
    obtain rfl : Document.numberFormat.render x = s := Option.some.inj h
    cases x with
    | finite negative m e => cases hfinite
    | infinite negative => cases negative <;> decide
    | nan => decide

theorem charsOf_number {n : Number} {level : Nat} (h : charsOf (tokens level (.number n)) = some cs) :
    ∃ s, Document.numberText? n = some s ∧ cs = s.toList := by
  rw [tokens, charsOf] at h
  cases hs : Document.numberText? n with
  | none => simp [hs] at h
  | some s =>
    refine ⟨s, rfl, ?_⟩
    simpa [hs, Document.ascii, eq_comm] using h

theorem charsOf_text {t : Text} {level : Nat} (h : charsOf (tokens level (.text t)) = some cs) :
    Text.chars? (Document.quoted t) = some cs := by
  obtain ⟨a, b, ha, hb, rfl⟩ := Document.charsOf_quoted_eq_some.1 h
  cases hb
  rw [ha, List.append_nil]

theorem head_of_numberText {n : Number} {s : String} (h : Document.numberText? n = some s)
    (hr : (Value.number n).IsRounded) :
    ∃ c tail, s.toList = c :: tail ∧ isBlank c = false ∧ c ≠ ']' := by
  cases hfinite : (Value.number n).isFinite with
  | true =>
    have hread := readNumber_numberText h hr hfinite (show Stops [','] from Or.inl rfl)
    obtain ⟨c, tail, hs, hc⟩ := head_of_readNumber hread
    cases hcs : s.toList with
    | nil =>
      rw [hcs] at hs
      cases hs
      rcases hc with hc | hc <;> cases hc
    | cons d ds =>
      rw [hcs] at hs
      cases hs
      exact ⟨c, ds, rfl, isBlank_of_digit_or_sign hc, by rintro rfl; rcases hc with hc | hc <;> cases hc⟩
  | false =>
    obtain rfl | rfl | rfl := text_of_not_isFinite h hfinite <;> exact ⟨_, _, rfl, rfl, by decide⟩

/-- The text of a document starts with a character that closes no list. -/
theorem head_of_charsOf {d : Document} {level : Nat} (h : charsOf (tokens level d) = some cs)
    (hr : ∀ v ∈ d.values, v.IsRounded) : ∃ c tail, cs = c :: tail ∧ isBlank c = false ∧ c ≠ ']' := by
  cases d with
  | null =>
    cases h
    exact ⟨_, _, rfl, rfl, by decide⟩
  | bool b =>
    cases b <;> cases h <;> exact ⟨_, _, rfl, rfl, by decide⟩
  | number n =>
    obtain ⟨s, hs, rfl⟩ := charsOf_number h
    exact head_of_numberText hs (hr _ (by simp [Document.values]))
  | text t =>
    obtain ⟨body, rfl, -⟩ := readString_quoted (charsOf_text h)
    exact ⟨_, _, rfl, rfl, by decide⟩
  | list items =>
    cases items with
    | nil =>
      cases h
      exact ⟨_, _, rfl, rfl, by decide⟩
    | cons d ds =>
      obtain ⟨_, _, -, -, rfl⟩ := Document.charsOf_list h
      exact ⟨_, _, rfl, rfl, by decide⟩
  | object fields =>
    cases fields with
    | nil =>
      cases h
      exact ⟨_, _, rfl, rfl, by decide⟩
    | cons f fs =>
      obtain ⟨_, _, _, -, -, -, rfl⟩ := Document.charsOf_object h
      exact ⟨_, _, rfl, rfl, by decide⟩

theorem readValue_number {n : Number} {s : String} (h : Document.numberText? n = some s)
    (hr : (Value.number n).IsRounded) (hrest : Stops rest) :
    readValue (steps + 1) (s.toList ++ rest) =
      if (Value.number n).isFinite then some (.number n, rest) else none := by
  cases hfinite : (Value.number n).isFinite with
  | true => exact readValue_of_readNumber (readNumber_numberText h hr hfinite hrest)
  | false => obtain rfl | rfl | rfl := text_of_not_isFinite h hfinite <;> rfl

/-- A list that is not empty is read as its first item and the others. -/
theorem readValue_list {c : Char} (hblank : isBlank c = false) (hc : c ≠ ']') (steps level : Nat)
    (tail : List Char) : readValue (steps + 1) ('[' :: (newlineChars level ++ c :: tail)) =
      (readValue steps (c :: tail)).bind fun r =>
        (readItems steps r.2).map fun q => (.list (r.1 :: q.1), q.2) := by
  have hskip : skip (newlineChars level ++ c :: tail) = c :: tail := by
    rw [skip_newlineChars]
    exact List.dropWhile_cons_of_neg (by simp [hblank])
  rw [readValue, show skip ('[' :: (newlineChars level ++ c :: tail)) =
    '[' :: (newlineChars level ++ c :: tail) from rfl]
  simp only [hskip]
  split
  next heq =>
    cases heq
    exact absurd rfl hc
  next =>
    cases readValue steps (c :: tail) with
    | none => rfl
    | some r => cases hq : readItems steps r.2 <;> simp [hq]

theorem readValue_object {k : String} {key : List Char}
    (h : Text.chars? (Document.quoted (Text.ofString k)) = some key) (steps level : Nat)
    (value rest : List Char) :
    readValue (steps + 1) ('{' :: (newlineChars level ++ (fieldChars key value ++ rest))) =
      (readValue steps (value ++ rest)).bind fun r =>
        (readFields steps r.2).map fun q => (.object ((k, r.1) :: q.1), q.2) := by
  have hread := readKey_fieldChars h value rest
  obtain ⟨body, rfl, -⟩ := readString_quoted h
  have hskip : skip (newlineChars level ++ (fieldChars ('"' :: body) value ++ rest)) =
      fieldChars ('"' :: body) value ++ rest := by
    rw [skip_newlineChars]
    rfl
  rw [readValue, show skip ('{' :: (newlineChars level ++ (fieldChars ('"' :: body) value ++ rest))) =
    '{' :: (newlineChars level ++ (fieldChars ('"' :: body) value ++ rest)) from rfl]
  simp only [hskip]
  split
  next heq => cases heq
  next =>
    simp only [hread, Option.bind_eq_bind, Option.bind_some, readValue_space]
    cases readValue steps (value ++ rest) with
    | none => rfl
    | some r => cases hq : readFields steps r.2 <;> simp [hq]

/-- The items after a comma are read one by one. -/
theorem readItems_cons (steps level : Nat) (cs : List Char) :
    readItems (steps + 1) (',' :: (newlineChars level ++ cs)) =
      (readValue steps cs).bind fun r => (readItems steps r.2).map fun q => (r.1 :: q.1, q.2) := by
  rw [readItems, show skip (',' :: (newlineChars level ++ cs)) =
    ',' :: (newlineChars level ++ cs) from rfl]
  simp only [readValue_newlineChars]
  cases readValue steps cs with
  | none => rfl
  | some r => cases hq : readItems steps r.2 <;> simp [hq]

theorem readFields_cons {k : String} {key : List Char}
    (h : Text.chars? (Document.quoted (Text.ofString k)) = some key) (steps level : Nat)
    (value rest : List Char) :
    readFields (steps + 1) (',' :: (newlineChars level ++ (fieldChars key value ++ rest))) =
      (readValue steps (value ++ rest)).bind fun r =>
        (readFields steps r.2).map fun q => ((k, r.1) :: q.1, q.2) := by
  have hread : readKey (newlineChars level ++ (fieldChars key value ++ rest)) =
      some (k, ' ' :: (value ++ rest)) := by
    rw [← readKey_fieldChars h value rest, readKey, readKey, skip_newlineChars]
  rw [readFields, show skip (',' :: (newlineChars level ++ (fieldChars key value ++ rest))) =
    ',' :: (newlineChars level ++ (fieldChars key value ++ rest)) from rfl]
  simp only [hread, Option.bind_eq_bind, Option.bind_some, readValue_space]
  cases readValue steps (value ++ rest) with
  | none => rfl
  | some r => cases hq : readFields steps r.2 <;> simp [hq]

theorem stops_items {level : Nat} {ds : List Document} (h : charsOf (itemTokens level ds) = some cs)
    (outer : Nat) (rest : List Char) : Stops (cs ++ (newlineChars outer ++ rest)) := by
  cases ds with
  | nil =>
    cases h
    exact Or.inr rfl
  | cons d ds =>
    obtain ⟨_, _, -, -, rfl⟩ := Document.charsOf_items h
    exact Or.inl rfl

theorem stops_fields {level : Nat} {fs : List (String × Document)}
    (h : charsOf (fieldTokens level fs) = some cs) (outer : Nat) (rest : List Char) :
    Stops (cs ++ (newlineChars outer ++ rest)) := by
  cases fs with
  | nil =>
    cases h
    exact Or.inr rfl
  | cons f fs =>
    obtain ⟨_, _, _, -, -, -, rfl⟩ := Document.charsOf_fields h
    exact Or.inl rfl

/-- Two readings one after the other succeed if both do. -/
theorem bind_reading {α β γ : Type} {x : Option (α × List Char)} {y : List Char → Option (β × List Char)}
    {p q : Bool} {a : α} {b : β} {mid : List Char} (f : α → β → γ)
    (hx : x = if p then some (a, mid) else none) (hy : y mid = if q then some (b, rest) else none) :
    (x.bind fun r => (y r.2).map fun s => (f r.1 s.1, s.2)) =
      if p && q then some (f a b, rest) else none := by
  cases p <;> cases q <;> simp [hx, hy]

mutual

/-- What is written of a document is read as the document, if its numbers are finite. -/
theorem readValue_tokens (d : Document) {level steps : Nat} {cs rest : List Char}
    (h : charsOf (tokens level d) = some cs) (hr : ∀ v ∈ d.values, v.IsRounded) (hrest : Stops rest)
    (hsteps : cs.length ≤ steps) : readValue steps (cs ++ rest) =
      if d.values.all Value.isFinite then some (d, rest) else none := by
  -- no value is without a character, so a step for each character is enough
  obtain ⟨steps, rfl⟩ : ∃ n, steps = n + 1 := by
    obtain ⟨c, tail, rfl, -, -⟩ := head_of_charsOf h hr
    exact ⟨steps - 1, by rw [List.length_cons] at hsteps; omega⟩
  cases d with
  | null =>
    cases h
    rfl
  | bool b => cases b <;> cases h <;> rfl
  | number n =>
    obtain ⟨s, hs, rfl⟩ := charsOf_number h
    rw [readValue_number hs (hr _ (by simp [Document.values])) hrest]
    simp [Document.values]
  | text t =>
    obtain ⟨body, rfl, hread⟩ := readString_quoted (charsOf_text h)
    have hvalue : readValue (steps + 1) ('"' :: (body ++ rest)) =
        (readString (body ++ rest)).map fun r => (.text r.1, r.2) := rfl
    rw [List.cons_append, hvalue, hread]
    rfl
  | list items =>
    cases items with
    | nil =>
      cases h
      rfl
    | cons d ds =>
      obtain ⟨a, b, ha, hb, rfl⟩ := Document.charsOf_list h
      simp only [Document.values, Document.itemValues, List.mem_append, or_imp, forall_and] at hr
      simp only [List.length_cons, List.length_append] at hsteps
      have hd := readValue_tokens d ha hr.1 (stops_items hb level (']' :: rest))
        (show a.length ≤ steps by omega)
      have hds := readItems_tokens ds hb hr.2 (show b.length < steps by omega) level rest
      obtain ⟨c, tail, rfl, hblank, hc⟩ := head_of_charsOf ha hr.1
      simp only [List.cons_append, List.append_assoc, List.nil_append] at hd ⊢
      rw [readValue_list hblank hc, Document.values, Document.itemValues, List.all_append]
      exact bind_reading (fun d ds => Document.list (d :: ds)) hd hds
  | object fields =>
    cases fields with
    | nil =>
      cases h
      rfl
    | cons f fs =>
      obtain ⟨k, d⟩ := f
      obtain ⟨key, a, b, hkey, ha, hb, rfl⟩ := Document.charsOf_object h
      simp only [Document.values, Document.fieldValues, List.mem_append, or_imp, forall_and] at hr
      simp only [fieldChars, List.length_cons, List.length_append] at hsteps
      have hd := readValue_tokens d ha hr.1 (stops_fields hb level ('}' :: rest))
        (show a.length ≤ steps by omega)
      have hfs := readFields_tokens fs hb hr.2 (show b.length < steps by omega) level rest
      simp only [List.cons_append, List.append_assoc, List.nil_append]
      rw [readValue_object hkey, Document.values, Document.fieldValues, List.all_append]
      exact bind_reading (fun d fs => Document.object ((k, d) :: fs)) hd hfs

theorem readItems_tokens (ds : List Document) {level steps : Nat} {cs : List Char}
    (h : charsOf (itemTokens level ds) = some cs) (hr : ∀ v ∈ Document.itemValues ds, v.IsRounded)
    (hsteps : cs.length < steps) (outer : Nat) (rest : List Char) :
    readItems steps (cs ++ (newlineChars outer ++ ']' :: rest)) =
      if (Document.itemValues ds).all Value.isFinite then some (ds, rest) else none := by
  obtain ⟨steps, rfl⟩ : ∃ n, steps = n + 1 := ⟨steps - 1, by omega⟩
  cases ds with
  | nil =>
    cases h
    rw [List.nil_append, readItems_newlineChars]
    rfl
  | cons d ds =>
    obtain ⟨a, b, ha, hb, rfl⟩ := Document.charsOf_items h
    simp only [Document.itemValues, List.mem_append, or_imp, forall_and] at hr
    simp only [List.length_cons, List.length_append] at hsteps
    have hd := readValue_tokens d ha hr.1 (stops_items hb outer (']' :: rest))
      (show a.length ≤ steps by omega)
    have hds := readItems_tokens ds hb hr.2 (show b.length < steps by omega) outer rest
    simp only [List.cons_append, List.append_assoc]
    rw [readItems_cons, Document.itemValues, List.all_append]
    exact bind_reading List.cons hd hds

theorem readFields_tokens (fs : List (String × Document)) {level steps : Nat} {cs : List Char}
    (h : charsOf (fieldTokens level fs) = some cs)
    (hr : ∀ v ∈ Document.fieldValues fs, v.IsRounded) (hsteps : cs.length < steps) (outer : Nat)
    (rest : List Char) : readFields steps (cs ++ (newlineChars outer ++ '}' :: rest)) =
      if (Document.fieldValues fs).all Value.isFinite then some (fs, rest) else none := by
  obtain ⟨steps, rfl⟩ : ∃ n, steps = n + 1 := ⟨steps - 1, by omega⟩
  cases fs with
  | nil =>
    cases h
    rw [List.nil_append, readFields_newlineChars]
    rfl
  | cons f fs =>
    obtain ⟨k, d⟩ := f
    obtain ⟨key, a, b, hkey, ha, hb, rfl⟩ := Document.charsOf_fields h
    simp only [Document.fieldValues, List.mem_append, or_imp, forall_and] at hr
    simp only [fieldChars, List.length_cons, List.length_append] at hsteps
    have hd := readValue_tokens d ha hr.1 (stops_fields hb outer ('}' :: rest))
      (show a.length ≤ steps by omega)
    have hfs := readFields_tokens fs hb hr.2 (show b.length < steps by omega) outer rest
    simp only [List.cons_append, List.append_assoc]
    rw [readFields_cons hkey, Document.fieldValues, List.all_append]
    exact bind_reading (fun d fs => (k, d) :: fs) hd hfs

end

/-- The text of a document is a strict JSON text that spells the document, if its numbers are finite. -/
theorem read?_of_charsOf {d : Document} (h : charsOf (d.tokens 0) = some cs)
    (hr : ∀ v ∈ d.values, v.IsRounded) :
    read? (cs ++ ['\n']) = if d.isFinite then some d else none := by
  have hstops : Stops ['\n'] := Or.inr rfl
  have hsteps : cs.length ≤ (cs ++ ['\n']).length + 1 := by
    rw [List.length_append]
    omega
  have hvalue : readValue ((cs ++ ['\n']).length + 1) (cs ++ ['\n']) =
      if d.isFinite then some (d, ['\n']) else none := readValue_tokens d h hr hstops hsteps
  have hskip : skip ['\n'] = [] := rfl
  rw [read?, hvalue]
  cases d.isFinite with
  | true => simp only [if_true, Option.bind_eq_bind, Option.bind_some, hskip, List.isEmpty_nil]
  | false => rfl

/-- Reads a text strictly; one with surrogates is not well formed. -/
def readText? (t : Text) : Option Document := t.chars?.bind read?

theorem readText?_of_text? {d : Document} {text : Text} (h : d.text? = some text)
    (hr : ∀ v ∈ d.values, v.IsRounded) :
    readText? (text ++ [.ofChar '\n']) = if d.isWritable && d.isFinite then some d else none := by
  have hchars : Document.charsOf (d.tokens 0) = text.chars? := by
    rw [Document.charsOf_tokens_eq, h, Option.bind_some]
  have hwritable : text.chars?.isSome = d.isWritable := by
    rw [← hchars, Document.isSome_charsOf_tokens]
    rfl
  have hline : Text.chars? [CodePoint.ofChar '\n'] = some ['\n'] := by decide
  rw [readText?, Text.chars?_append, hline, ← hwritable]
  cases hcs : text.chars? with
  | none => rfl
  | some cs => simpa using read?_of_charsOf (hchars.trans hcs) hr

end Json

end MarkupCensus
