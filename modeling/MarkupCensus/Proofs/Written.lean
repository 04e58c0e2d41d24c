import MarkupCensus.Document
import Mathlib.Tactic.SplitIfs

namespace MarkupCensus

namespace CodePoint

theorem isSome_toChar? (c : CodePoint) : c.toChar?.isSome = !c.isSurrogate := by
  unfold toChar?
  cases c.isSurrogate <;> rfl

theorem ofChar_of_toChar? {c : CodePoint} {x : Char} (h : c.toChar? = some x) : ofChar x = c := by
  unfold toChar? at h
  split at h
  · cases h
  next hs =>
    cases h
    have hvalid : c.val.isValidChar := by
      simp only [isSurrogate, Bool.and_eq_true, decide_eq_true_eq, not_and] at hs
      have := c.isLt
      unfold Nat.isValidChar
      omega
    apply Fin.ext
    rw [ofChar, Char.ofNat, dif_pos hvalid]
    rfl

end CodePoint

namespace Text

/-- The characters of a text, if all its code points are characters. -/
def chars? (t : Text) : Option (List Char) := t.mapM CodePoint.toChar?

@[simp] theorem chars?_nil : chars? [] = some [] := rfl

theorem chars?_cons (c : CodePoint) (t : Text) :
    chars? (c :: t) = c.toChar?.bind fun x => (chars? t).map (x :: ·) := by
  simp only [chars?, List.mapM_cons]
  cases c.toChar? with
  | none => rfl
  | some x => cases t.mapM CodePoint.toChar? <;> rfl

theorem chars?_append (s t : Text) :
    chars? (s ++ t) = (chars? s).bind fun a => (chars? t).map (a ++ ·) := by
  induction s with
  | nil => simp
  | cons c s ih =>
    rw [List.cons_append, chars?_cons, chars?_cons, ih]
    cases c.toChar? with
    | none => rfl
    | some x => cases chars? s <;> cases chars? t <;> rfl

@[simp] theorem chars?_ofString (s : String) : chars? (ofString s) = some s.toList := by
  rw [ofString]
  induction s.toList with
  | nil => rfl
  | cons x xs ih => rw [List.map_cons, chars?_cons, ih, CodePoint.toChar?_ofChar]; rfl

theorem isSome_chars? (t : Text) : (chars? t).isSome = !t.hasSurrogate := by
  induction t with
  | nil => rfl
  | cons c t ih =>
    have hc := c.isSome_toChar?
    rw [chars?_cons, hasSurrogate, List.any_cons]
    cases hx : c.toChar? with
    | none => simp_all
    | some x => simp_all [hasSurrogate]

/-- A text of characters only is a string. -/
theorem eq_ofString_of_chars? {t : Text} {cs : List Char} (h : chars? t = some cs) :
    t = ofString (String.ofList cs) := by
  induction t generalizing cs with
  | nil =>
    cases h
    rfl
  | cons c t ih =>
    rw [chars?_cons] at h
    obtain ⟨x, hx, h⟩ := Option.bind_eq_some_iff.1 h
    obtain ⟨xs, hxs, rfl⟩ := Option.map_eq_some_iff.1 h
    have ht := ih hxs
    rw [ofString, String.toList_ofList] at ht ⊢
    rw [List.map_cons, CodePoint.ofChar_of_toChar? hx, ← ht]

theorem toString?_eq (t : Text) : t.toString? = (chars? t).map String.ofList := rfl

end Text

namespace Document

/-- The characters of tokens that can all be written. -/
def charsOf : List Token → Option (List Char)
  | [] => some []
  | t :: ts => (t.bind Text.chars?).bind fun a => (charsOf ts).map (a ++ ·)

@[simp] theorem charsOf_nil : charsOf [] = some [] := rfl

@[simp] theorem charsOf_token (s : String) (ts : List Token) :
    charsOf (token s :: ts) = (charsOf ts).map (s.toList ++ ·) := by
  simp [charsOf, token, ascii]

theorem charsOf_append (ts us : List Token) :
    charsOf (ts ++ us) = (charsOf ts).bind fun a => (charsOf us).map (a ++ ·) := by
  induction ts with
  | nil => simp
  | cons t ts ih =>
    rw [List.cons_append, charsOf, charsOf, ih]
    cases t.bind Text.chars? with
    | none => rfl
    | some a => cases charsOf ts <;> cases charsOf us <;> simp

theorem charsOf_eq_bind (ts : List Token) :
    charsOf ts = (ts.mapM id).bind fun texts => Text.chars? texts.flatten := by
  induction ts with
  | nil => rfl
  | cons t ts ih =>
    rw [charsOf, ih, List.mapM_cons]
    cases t with
    | none => rfl
    | some a =>
      cases ts.mapM id with
      | none => cases ha : Text.chars? a <;> simp [ha]
      | some texts => simp [Text.chars?_append]

theorem charsOf_tokens_eq (d : Document) : charsOf (d.tokens 0) = d.text?.bind Text.chars? := by
  rw [charsOf_eq_bind, text?]
  cases (d.tokens 0).mapM id <;> rfl

/-- A document whose tokens can all be written has a text of characters only. -/
theorem text?_of_charsOf {d : Document} {cs : List Char} (h : charsOf (d.tokens 0) = some cs) :
    d.text? = some (Text.ofString (String.ofList cs)) := by
  rw [charsOf_tokens_eq] at h
  obtain ⟨text, htext, hcs⟩ := Option.bind_eq_some_iff.1 h
  rw [htext, Text.eq_ofString_of_chars? hcs]

/-- Writing token by token gets to the end if all of them can be written. -/
theorem writeTokens_of_charsOf {ts : List Token} {cs : List Char} (h : charsOf ts = some cs) :
    writeTokens ts = (String.ofList cs, none) := by
  induction ts generalizing cs with
  | nil =>
    cases h
    rfl
  | cons t ts ih =>
    obtain ⟨a, ha, hrest⟩ := Option.bind_eq_some_iff.1 h
    obtain ⟨b, hb, rfl⟩ := Option.map_eq_some_iff.1 hrest
    obtain ⟨text, rfl, htext⟩ := Option.bind_eq_some_iff.1 ha
    simp [writeTokens, Text.toString?_eq, htext, ih hb, String.ofList_append]

theorem writeTokens_of_charsOf_none {ts : List Token} (h : charsOf ts = none) :
    ∃ u, (writeTokens ts).2 = some u := by
  induction ts with
  | nil => cases h
  | cons t ts ih =>
    cases t with
    | none => exact ⟨_, rfl⟩
    | some text =>
      rw [writeTokens, Text.toString?_eq]
      cases htext : text.chars? with
      | none => exact ⟨_, rfl⟩
      | some cs =>
        refine ih ?_
        rw [charsOf, Option.bind_some, htext, Option.bind_some] at h
        exact Option.map_eq_none_iff.1 h

theorem isSome_chars?_escaped (c : CodePoint) : (Text.chars? (escaped c)).isSome = !c.isSurrogate := by
  have hascii (h : c.val < 0x80) (s : String) :
      (Text.chars? (ascii s)).isSome = !c.isSurrogate := by
    simp [ascii, CodePoint.isSurrogate]
    omega
  simp only [escaped, beq_iff_eq]
  split_ifs
  case neg => rw [Text.isSome_chars?]; simp [Text.hasSurrogate]
  all_goals exact hascii (by omega) _

theorem isSome_chars?_quoted (t : Text) : (Text.chars? (quoted t)).isSome = !t.hasSurrogate := by
  have hbody : (Text.chars? (t.flatMap escaped)).isSome = !t.hasSurrogate := by
    induction t with
    | nil => rfl
    | cons c t ih =>
      have hc := isSome_chars?_escaped c
      rw [List.flatMap_cons, Text.chars?_append, Text.hasSurrogate, List.any_cons]
      cases hx : Text.chars? (escaped c) with
      | none => simp_all
      | some x => simp_all [Text.hasSurrogate]
  rw [← hbody, quoted, Text.chars?_append, Text.chars?_append]
  cases Text.chars? (t.flatMap escaped) <;> simp [ascii]

mutual

/-- The values in a document, from the first to the last. -/
def values : Document → List Value
  | .null => [.null]
  | .bool b => [.bool b]
  | .number n => [.number n]
  | .text t => [.text t]
  | .list items => itemValues items
  | .object fields => fieldValues fields

def itemValues : List Document → List Value
  | [] => []
  | d :: ds => values d ++ itemValues ds

def fieldValues : List (String × Document) → List Value
  | [] => []
  | (_, d) :: fs => values d ++ fieldValues fs

end

end Document

/-- Whether a value has a text: integers of more than `digitLimit` digits and lone surrogates have
none. -/
def Value.isWritable : Value → Bool
  | .number (.int n) => (Nat.toDigits 10 n.natAbs).length ≤ digitLimit
  | .text t => !t.hasSurrogate
  | _ => true

namespace Document

def isWritable (d : Document) : Bool := d.values.all Value.isWritable

@[simp] theorem isSome_charsOf_some (t : Text) (ts : List Token) :
    (charsOf (some t :: ts)).isSome = (t.chars?.isSome && (charsOf ts).isSome) := by
  rw [charsOf, Option.bind_some]
  cases t.chars? <;> simp

@[simp] theorem isSome_charsOf_append (ts us : List Token) :
    (charsOf (ts ++ us)).isSome = ((charsOf ts).isSome && (charsOf us).isSome) := by
  rw [charsOf_append]
  cases charsOf ts <;> simp

@[simp] theorem isSome_chars?_newline (level : Nat) : (Text.chars? (newline level)).isSome = true := by
  simp [newline, ascii]

@[simp] theorem isSome_chars?_key (k : String) :
    (Text.chars? (quoted (Text.ofString k))).isSome = true := by
  rw [isSome_chars?_quoted, ← Text.isSome_chars?, Text.chars?_ofString]
  rfl

mutual

/-- The tokens of a document can be written if all its values can. -/
theorem isSome_charsOf_tokens (level : Nat) (d : Document) :
    (charsOf (d.tokens level)).isSome = d.values.all Value.isWritable := by
  cases d with
  | null => simp [tokens, values, Value.isWritable]
  | bool b => simp [tokens, values, Value.isWritable]
  | number n =>
    cases n with
    | int n =>
      simp only [tokens, values, numberText?, List.all_cons, Value.isWritable]
      split <;> simp_all [charsOf, ascii]
    | real x => simp [tokens, values, Value.isWritable, numberText?, charsOf, ascii]
  | text t => simp [tokens, values, Value.isWritable, isSome_chars?_quoted]
  | list items =>
    cases items with
    | nil => simp [tokens, values, itemValues]
    | cons d ds =>
      simp [tokens, values, itemValues, isSome_charsOf_tokens _ d, isSome_charsOf_itemTokens _ ds]
  | object fields =>
    cases fields with
    | nil => simp [tokens, values, fieldValues]
    | cons f fs =>
      obtain ⟨k, d⟩ := f
      simp [tokens, values, fieldValues, isSome_charsOf_tokens _ d, isSome_charsOf_fieldTokens _ fs]

theorem isSome_charsOf_itemTokens (level : Nat) (ds : List Document) :
    (charsOf (itemTokens level ds)).isSome = (itemValues ds).all Value.isWritable := by
  cases ds with
  | nil => rfl
  | cons d ds =>
    simp [itemTokens, itemValues, isSome_charsOf_tokens _ d, isSome_charsOf_itemTokens _ ds]

theorem isSome_charsOf_fieldTokens (level : Nat) (fs : List (String × Document)) :
    (charsOf (fieldTokens level fs)).isSome = (fieldValues fs).all Value.isWritable := by
  cases fs with
  | nil => rfl
  | cons f fs =>
    obtain ⟨k, d⟩ := f
    simp [fieldTokens, fieldValues, isSome_charsOf_tokens _ d, isSome_charsOf_fieldTokens _ fs]

end

end Document

end MarkupCensus
