import MarkupCensus.Proofs.ReferenceForms
import MarkupCensus.Proofs.Results
import MarkupCensus.Tree.Literal

namespace MarkupCensus

namespace CharRef

/-- Decodes the references that end in a semicolon, and nothing else. -/
inductive Decodes : List Char → List Char → Prop
  | nil : Decodes [] []
  | plain {c : Char} {cs out : List Char} (hc : c ≠ '&') (h : Decodes cs out) :
    Decodes (c :: cs) (c :: out)
  | reference {ref value cs out : List Char} (ht : Terminated ref value) (h : Decodes cs out) :
    Decodes ('&' :: (ref ++ cs)) (value ++ out)
  | bare {cs out : List Char} (hno : ∀ ref value, Terminated ref value → ¬ref <+: cs)
    (h : Decodes cs out) : Decodes ('&' :: cs) ('&' :: out)

/-- What comes after each ampersand of a text is such and such. -/
def AtAmpersands (P : List Char → Prop) (cs : List Char) : Prop :=
  ∀ before after, cs = before ++ '&' :: after → P after

/-- Wherever an ampersand opens a reference, a semicolon ends it. -/
def AllTerminated : List Char → Prop :=
  AtAmpersands fun after => Opens after → ∃ ref value, Terminated ref value ∧ ref <+: after

/-- No ampersand is followed by a number with too many digits to be read. -/
def AllReadable : List Char → Prop := AtAmpersands fun after => ¬Overlong after

variable {c : Char} {cs ref value out plain rest : List Char} {P : List Char → Prop}

section AtAmpersands

theorem atAmpersands_nil : AtAmpersands P [] := by
  rintro (_ | _) after hcs <;> cases hcs

theorem atAmpersands_cons_iff :
    AtAmpersands P (c :: cs) ↔ (c = '&' → P cs) ∧ AtAmpersands P cs := by
  constructor
  · intro h
    refine ⟨?_, fun before after hcs => h (c :: before) after (by rw [hcs]; rfl)⟩
    rintro rfl
    exact h [] cs rfl
  · rintro ⟨hhead, htail⟩ before after hcs
    cases before with
    | nil =>
      obtain ⟨rfl, rfl⟩ := List.cons.inj hcs
      exact hhead rfl
    | cons d before => exact htail before after (List.cons.inj hcs).2

theorem atAmpersands_append (hp : '&' ∉ plain) :
    AtAmpersands P (plain ++ cs) ↔ AtAmpersands P cs := by
  induction plain with
  | nil => rfl
  | cons c plain ih =>
    rw [List.mem_cons, not_or] at hp
    rw [List.cons_append, atAmpersands_cons_iff, ih hp.2]
    exact ⟨And.right, fun h => ⟨fun hc => absurd hc.symm hp.1, h⟩⟩

theorem atAmpersands_amp_append (hp : '&' ∉ plain) :
    AtAmpersands P ('&' :: (plain ++ cs)) ↔ P (plain ++ cs) ∧ AtAmpersands P cs := by
  rw [atAmpersands_cons_iff, atAmpersands_append hp]
  exact and_congr_left fun _ => ⟨fun h => h rfl, fun h _ => h⟩

end AtAmpersands

theorem opens_of_overlong (h : Overlong cs) : Opens cs := by
  obtain ⟨ds, rest, rfl, hd, hlong⟩ := h
  have hne : ds ≠ [] := List.ne_nil_of_length_pos (Nat.zero_lt_of_lt hlong)
  obtain ⟨d, ds, rfl⟩ := List.exists_cons_of_ne_nil hne
  exact Opens.number .decimal (hd d List.mem_cons_self)

section Unescape

theorem exists_append_of_reference? (h : reference? cs = .ok (some (out, rest))) :
    ∃ consumed, cs = consumed ++ rest := by
  have hshort : ¬Overlong cs := by
    intro hlong
    obtain ⟨digits, -, herror⟩ := reference?_of_overlong hlong
    cases herror.symm.trans h
  by_cases hterminated : ∃ ref value, Terminated ref value ∧ ref <+: cs
  · obtain ⟨ref, value, ht, tail, rfl⟩ := hterminated
    rw [ht.reference?_append hshort] at h
    cases h
    exact ⟨ref, rfl⟩
  · have hno : ∀ ref value, Terminated ref value → ¬ref <+: cs :=
      fun ref value ht hp => hterminated ⟨ref, value, ht, hp⟩
    by_cases ho : Opens cs
    · obtain ⟨_, consumed, _, hread, hcs, -⟩ := exists_of_opens ho hno hshort
      rw [hread] at h
      cases h
      exact ⟨consumed, hcs⟩
    · obtain ⟨consumed, _, hcs, -, ⟨hnone, -⟩ | hread⟩ := exists_of_not_opens ho hno
      · rw [hnone] at h
        cases h
      · rw [hread] at h
        cases h
        exact ⟨consumed, hcs⟩

theorem unescapeWithin_congr {n m : Nat} (hn : cs.length ≤ n) (hm : cs.length ≤ m) :
    unescapeWithin n cs = unescapeWithin m cs := by
  induction n generalizing m cs with
  | zero =>
    obtain rfl := List.length_eq_zero_iff.1 (Nat.le_zero.1 hn)
    cases m <;> rfl
  | succ n ih =>
    cases cs with
    | nil => cases m <;> rfl
    | cons c cs =>
      obtain ⟨m, rfl⟩ : ∃ k, m = k + 1 := ⟨m - 1, by simp at hm; omega⟩
      simp only [List.length_cons, Nat.add_le_add_iff_right] at hn hm
      rw [unescapeWithin, unescapeWithin, ih hn hm]
      -- what is left after a reference is no longer than what it was read from
      cases hread : reference? cs with
      | error e => rfl
      | ok read =>
        obtain _ | ⟨out, rest⟩ := read
        · rfl
        · obtain ⟨consumed, hcs⟩ := exists_append_of_reference? hread
          have hle : rest.length ≤ cs.length := by rw [hcs]; simp
          simp only [bind, Except.bind, ih (hle.trans hn) (hle.trans hm)]

theorem unescape_cons_of_ne (hc : c ≠ '&') (cs : List Char) :
    unescape (c :: cs) = (unescape cs).map (c :: ·) := by
  rw [unescape, List.length_cons, unescapeWithin, if_neg hc, unescape]
  cases unescapeWithin cs.length cs <;> rfl

theorem unescape_append (hp : '&' ∉ plain) (cs : List Char) :
    unescape (plain ++ cs) = (unescape cs).map (plain ++ ·) := by
  induction plain with
  | nil =>
    rw [List.nil_append]
    cases unescape cs <;> rfl
  | cons c plain ih =>
    rw [List.mem_cons, not_or] at hp
    rw [List.cons_append, unescape_cons_of_ne (Ne.symm hp.1), ih hp.2]
    cases unescape cs <;> rfl

theorem unescape_of_reference? (h : reference? cs = .ok (some (out, rest))) :
    unescape ('&' :: cs) = (unescape rest).map (out ++ ·) := by
  obtain ⟨consumed, rfl⟩ := exists_append_of_reference? h
  rw [unescape, List.length_cons, unescapeWithin, if_pos rfl, h, unescape,
    ← unescapeWithin_congr (by simp : rest.length ≤ (consumed ++ rest).length) le_rfl]
  simp only [bind, Except.bind]
  cases unescapeWithin (consumed ++ rest).length rest <;> rfl

theorem unescape_of_reference?_eq_none (h : reference? cs = .ok none) :
    unescape ('&' :: cs) = (unescape cs).map ('&' :: ·) := by
  rw [unescape, List.length_cons, unescapeWithin, if_pos rfl, h, unescape]
  simp only [bind, Except.bind]
  cases unescapeWithin cs.length cs <;> rfl

theorem unescape_of_overlong (h : Overlong cs) :
    ∃ digits, digitLimit < digits ∧ unescape ('&' :: cs) = .error (.overlongNumeral digits) := by
  obtain ⟨digits, hdigits, hread⟩ := reference?_of_overlong h
  refine ⟨digits, hdigits, ?_⟩
  rw [unescape, List.length_cons, unescapeWithin, if_pos rfl, hread]
  rfl

/-- Whatever follows an ampersand, a part of it is taken with the ampersand, unless it is a number that
is too long. -/
theorem exists_unescape_amp (hshort : ¬Overlong cs) : ∃ consumed rest out, cs = consumed ++ rest ∧
    '&' ∉ consumed ∧ unescape ('&' :: cs) = (unescape rest).map (out ++ ·) := by
  by_cases hterminated : ∃ ref value, Terminated ref value ∧ ref <+: cs
  · obtain ⟨ref, value, ht, rest, rfl⟩ := hterminated
    exact ⟨ref, rest, value, rfl, ht.not_mem, unescape_of_reference? (ht.reference?_append hshort)⟩
  · have hno : ∀ ref value, Terminated ref value → ¬ref <+: cs :=
      fun ref value ht hp => hterminated ⟨ref, value, ht, hp⟩
    by_cases ho : Opens cs
    · obtain ⟨out, consumed, rest, hread, hcs, hamp, -⟩ := exists_of_opens ho hno hshort
      exact ⟨consumed, rest, out, hcs, hamp, unescape_of_reference? hread⟩
    · obtain ⟨consumed, rest, hcs, hamp, ⟨hnone, rfl⟩ | hread⟩ := exists_of_not_opens ho hno
      · obtain rfl : cs = rest := hcs
        exact ⟨[], cs, ['&'], rfl, hamp, unescape_of_reference?_eq_none hnone⟩
      · exact ⟨consumed, rest, '&' :: consumed, hcs, hamp, unescape_of_reference? hread⟩

/-- An ampersand that starts no reference with a semicolon stands for itself if nothing opens after it;
else something is lost. -/
theorem unescape_bare (hno : ∀ ref value, Terminated ref value → ¬ref <+: cs)
    (hshort : ¬Overlong cs) {value : List Char} (hvalue : unescape cs = .ok value) :
    (¬Opens cs → unescape ('&' :: cs) = .ok ('&' :: value)) ∧
      (Opens cs → ∃ less, unescape ('&' :: cs) = .ok less ∧ less.length ≤ value.length) := by
  constructor
  · intro ho
    obtain ⟨consumed, rest, rfl, hamp, ⟨hnone, -⟩ | hread⟩ := exists_of_not_opens ho hno
    · rw [unescape_of_reference?_eq_none hnone, hvalue]
      rfl
    · rw [unescape_append hamp] at hvalue
      rw [unescape_of_reference? hread]
      obtain ⟨left, hleft, rfl⟩ := exists_ok_of_map_ok hvalue
      rw [hleft]
      rfl
  · intro ho
    obtain ⟨out, consumed, rest, hread, rfl, hamp, hle⟩ := exists_of_opens ho hno hshort
    rw [unescape_append hamp] at hvalue
    obtain ⟨left, hleft, rfl⟩ := exists_ok_of_map_ok hvalue
    refine ⟨out ++ left, by rw [unescape_of_reference? hread, hleft]; rfl, ?_⟩
    rw [List.length_append, List.length_append]
    omega

/-- A text is read, unless a number in it has too many digits. -/
theorem unescape_cases (cs : List Char) : (AllReadable cs ∧ ∃ value, unescape cs = .ok value) ∨
    ¬AllReadable cs ∧ ∃ digits, digitLimit < digits ∧
      unescape cs = .error (.overlongNumeral digits) := by
  induction hn : cs.length using Nat.strong_induction_on generalizing cs with
  | _ n ih =>
    cases cs with
    | nil => exact Or.inl ⟨atAmpersands_nil, [], rfl⟩
    | cons c cs =>
      rw [List.length_cons] at hn
      by_cases hc : c = '&'
      · subst hc
        by_cases hlong : Overlong cs
        · exact Or.inr ⟨fun hall => hall [] cs rfl hlong, unescape_of_overlong hlong⟩
        · obtain ⟨consumed, rest, out, rfl, hamp, hread⟩ := exists_unescape_amp hlong
          have hiff : AllReadable ('&' :: (consumed ++ rest)) ↔ AllReadable rest :=
            (atAmpersands_amp_append hamp).trans (and_iff_right hlong)
          rw [hiff, hread]
          refine (ih rest.length (by simp at hn; omega) rest rfl).imp ?_ ?_
          · rintro ⟨hall, value, hvalue⟩
            exact ⟨hall, out ++ value, by rw [hvalue]; rfl⟩
          · rintro ⟨hnot, digits, hdigits, herror⟩
            exact ⟨hnot, digits, hdigits, by rw [herror]; rfl⟩
      · have hiff : AllReadable (c :: cs) ↔ AllReadable cs :=
          atAmpersands_cons_iff.trans (and_iff_right fun h => absurd h hc)
        rw [hiff, unescape_cons_of_ne hc]
        refine (ih cs.length (by omega) cs rfl).imp ?_ ?_
        · rintro ⟨hall, value, hvalue⟩
          exact ⟨hall, c :: value, by rw [hvalue]; rfl⟩
        · rintro ⟨hnot, digits, hdigits, herror⟩
          exact ⟨hnot, digits, hdigits, by rw [herror]; rfl⟩

end Unescape

section Decodes

/-- Every text can be decoded. -/
theorem exists_decodes (cs : List Char) : ∃ out, Decodes cs out := by
  induction hn : cs.length using Nat.strong_induction_on generalizing cs with
  | _ n ih =>
    cases cs with
    | nil => exact ⟨[], .nil⟩
    | cons c cs =>
      rw [List.length_cons] at hn
      by_cases hc : c = '&'
      · subst hc
        by_cases hterminated : ∃ ref value, Terminated ref value ∧ ref <+: cs
        · obtain ⟨ref, value, ht, rest, rfl⟩ := hterminated
          obtain ⟨out, hout⟩ := ih rest.length (by simp at hn; omega) rest rfl
          exact ⟨_, .reference ht hout⟩
        · obtain ⟨out, hout⟩ := ih cs.length (by omega) cs rfl
          exact ⟨_, .bare (fun ref value ht hp => hterminated ⟨ref, value, ht, hp⟩) hout⟩
      · obtain ⟨out, hout⟩ := ih cs.length (by omega) cs rfl
        exact ⟨_, .plain hc hout⟩

/-- A text that is read is decoded where all references end in semicolons; where one does not, something
of it is lost. -/
theorem Decodes.unescape_spec (h : Decodes cs out) (hreadable : AllReadable cs) :
    ∃ value, unescape cs = .ok value ∧ (AllTerminated cs → value = out) ∧
      (¬AllTerminated cs → value.length < out.length) := by
  induction h with
  | nil => exact ⟨[], rfl, fun _ => rfl, fun hnot => absurd atAmpersands_nil hnot⟩
  | @plain c cs out hc _ ih =>
    have hiff : AllTerminated (c :: cs) ↔ AllTerminated cs :=
      atAmpersands_cons_iff.trans (and_iff_right fun h => absurd h hc)
    obtain ⟨value, hvalue, hall, hlost⟩ := ih (atAmpersands_cons_iff.1 hreadable).2
    rw [hiff, unescape_cons_of_ne hc, hvalue]
    refine ⟨c :: value, rfl, fun h => by rw [hall h], fun h => Nat.succ_lt_succ (hlost h)⟩
  | @reference ref value cs out ht _ ih =>
    obtain ⟨hshort, hrest⟩ := (atAmpersands_amp_append ht.not_mem).1 hreadable
    have hiff : AllTerminated ('&' :: (ref ++ cs)) ↔ AllTerminated cs :=
      (atAmpersands_amp_append ht.not_mem).trans
        (and_iff_right fun _ => ⟨ref, value, ht, List.prefix_append ref cs⟩)
    obtain ⟨left, hleft, hall, hlost⟩ := ih hrest
    rw [hiff, unescape_of_reference? (ht.reference?_append hshort), hleft]
    refine ⟨value ++ left, rfl, fun h => by rw [hall h], fun h => ?_⟩
    rw [List.length_append, List.length_append]
    exact Nat.add_lt_add_left (hlost h) _
  | @bare cs out hno _ ih =>
    have hnone : ¬∃ ref value, Terminated ref value ∧ ref <+: cs :=
      fun ⟨ref, value, ht, hp⟩ => hno ref value ht hp
    have hiff : AllTerminated ('&' :: cs) ↔ ¬Opens cs ∧ AllTerminated cs := by
      refine atAmpersands_cons_iff.trans (and_congr_left fun _ => ?_)
      exact ⟨fun h ho => hnone (h rfl ho), fun h _ ho => absurd ho h⟩
    obtain ⟨hshort, hrest⟩ := atAmpersands_cons_iff.1 hreadable
    obtain ⟨value, hvalue, hall, hlost⟩ := ih hrest
    obtain ⟨hkept, hopened⟩ := unescape_bare hno (hshort rfl) hvalue
    rw [hiff]
    by_cases ho : Opens cs
    · obtain ⟨less, hless, hle⟩ := hopened ho
      refine ⟨less, hless, fun h => absurd ho h.1, fun _ => ?_⟩
      have hout : value.length ≤ out.length := by
        by_cases h : AllTerminated cs
        · rw [hall h]
        · exact (hlost h).le
      rw [List.length_cons]
      omega
    · refine ⟨'&' :: value, hkept ho, fun h => by rw [hall h.2], fun h => ?_⟩
      exact Nat.succ_lt_succ (hlost fun hterminated => h ⟨ho, hterminated⟩)

/-- What is read is what the references with semicolons stand for exactly if all end in semicolons, and
none is too long. -/
theorem decodes_unescape_iff (cs : List Char) :
    (∃ out, unescape cs = .ok out ∧ Decodes cs out) ↔ AllTerminated cs ∧ AllReadable cs := by
  rcases unescape_cases cs with ⟨hreadable, -⟩ | ⟨hnot, digits, -, herror⟩
  · constructor
    · rintro ⟨out, hout, hdecodes⟩
      obtain ⟨value, hvalue, -, hlost⟩ := hdecodes.unescape_spec hreadable
      obtain rfl := Except.ok.inj (hvalue.symm.trans hout)
      refine ⟨?_, hreadable⟩
      by_contra hterminated
      exact lt_irrefl _ (hlost hterminated)
    · rintro ⟨hterminated, -⟩
      obtain ⟨out, hout⟩ := exists_decodes cs
      obtain ⟨value, hvalue, hall, -⟩ := hout.unescape_spec hreadable
      obtain rfl := hall hterminated
      exact ⟨value, hvalue, hout⟩
  · constructor
    · rintro ⟨out, hout, -⟩
      cases herror.symm.trans hout
    · exact fun h => absurd h.2 hnot

theorem not_prefix_of_not_mem (h : ';' ∉ cs) (ht : Terminated ref value) : ¬ref <+: cs :=
  fun hp => h (hp.subset ht.semicolon_mem)

/-- A text without semicolons is what it is decoded to. -/
theorem decodes_self (h : ';' ∉ cs) : Decodes cs cs := by
  induction cs with
  | nil => exact .nil
  | cons c cs ih =>
    have hcs : ';' ∉ cs := fun hmem => h (List.mem_cons_of_mem c hmem)
    by_cases hc : c = '&'
    · subst hc
      exact .bare (fun _ _ => not_prefix_of_not_mem hcs) (ih hcs)
    · exact .plain hc (ih hcs)

theorem unescape_eq_self_iff (h : ';' ∉ cs) :
    unescape cs = .ok cs ↔ AtAmpersands (fun after => ¬Opens after) cs := by
  constructor
  · intro heq before after hcs ho
    obtain ⟨hterminated, -⟩ := (decodes_unescape_iff cs).1 ⟨cs, heq, decodes_self h⟩
    obtain ⟨ref, value, ht, hp⟩ := hterminated before after hcs ho
    exact not_prefix_of_not_mem (fun hmem => h (by simp [hcs, hmem])) ht hp
  · intro hnone
    have hreadable : AllReadable cs :=
      fun before after hcs hlong => hnone before after hcs (opens_of_overlong hlong)
    obtain ⟨value, hvalue, hall, -⟩ := (decodes_self h).unescape_spec hreadable
    rw [hvalue, hall fun before after hcs ho => absurd ho (hnone before after hcs)]

end Decodes

end CharRef

theorem CodePoint.ofChar_injective : Function.Injective ofChar := by
  intro c d h
  have heq := congrArg toChar? h
  rw [toChar?_ofChar, toChar?_ofChar] at heq
  exact Option.some.inj heq

namespace Node

/-- The text of a string literal between its quotes. -/
def inner (src : Source) (n : Node) : List Char := ((n.text src).drop 1).dropLast

theorem literalValue_markup {n : Node} (src : Source) (h : n.kind = "string") :
    n.literalValue src true = ((CharRef.unescape (n.inner src)).map fun out =>
      Value.text (out.map CodePoint.ofChar)).mapError .literal := by
  rw [literalValue, h, attributeString, inner]
  cases CharRef.unescape ((n.text src).drop 1).dropLast <;> rfl

theorem literalValue_markup_eq_ok_iff {n : Node} {src : Source} {out : List Char}
    (h : n.kind = "string") : n.literalValue src true = .ok (.text (out.map CodePoint.ofChar)) ↔
      CharRef.unescape (n.inner src) = .ok out := by
  rw [literalValue_markup src h]
  cases CharRef.unescape (n.inner src) with
  | error e =>
    constructor
    · intro heq
      cases heq
    · intro heq
      cases heq
  | ok value =>
    constructor
    · intro heq
      rw [(List.map_inj_right fun c d => CodePoint.ofChar_injective.eq_iff.1).1
        (Value.text.inj (Except.ok.inj heq))]
    · intro heq
      rw [Except.ok.inj heq]
      rfl

/-- How a string of the markup is read. It has a value unless an ampersand in it is followed by a decimal
number of too many digits. The value is the one in which exactly the references that end in a semicolon
are decoded if all that open do so, and not otherwise. Without semicolons it is the string as it stands
if no reference opens, and not otherwise. -/
theorem literalValue_decodes_terminated (n : Node) (src : Source) (h : n.kind = "string") :
    (CharRef.AllReadable (n.inner src) →
      ∃ out : List Char, n.literalValue src true = .ok (.text (out.map CodePoint.ofChar))) ∧
    (¬CharRef.AllReadable (n.inner src) → ∃ digits, digitLimit < digits ∧
      n.literalValue src true = .error (.literal (.overlongNumeral digits))) ∧
    ((∃ out : List Char, n.literalValue src true = .ok (.text (out.map CodePoint.ofChar)) ∧
        CharRef.Decodes (n.inner src) out) ↔
      CharRef.AllTerminated (n.inner src) ∧ CharRef.AllReadable (n.inner src)) ∧
    (';' ∉ n.inner src →
      (n.literalValue src true = .ok (.text ((n.inner src).map CodePoint.ofChar)) ↔
        ∀ before after, n.inner src = before ++ '&' :: after → ¬CharRef.Opens after)) := by
  simp only [literalValue_markup_eq_ok_iff h]
  refine ⟨?_, ?_, CharRef.decodes_unescape_iff _, CharRef.unescape_eq_self_iff⟩
  · intro hall
    exact ((CharRef.unescape_cases _).resolve_right fun h => h.1 hall).2
  · intro hnot
    obtain ⟨-, digits, hdigits, herror⟩ :=
      (CharRef.unescape_cases _).resolve_left fun h => hnot h.1
    refine ⟨digits, hdigits, ?_⟩
    rw [literalValue_markup src h, herror]
    rfl

end Node

namespace Sample

/-- The string of an attribute that holds a part of a query. -/
def querySource : Source := Utf8.encode "'&&copy=1'".toList

def query : Node := { kind := "string", start := 0, stop := 10 }

end Sample

open Sample in
theorem Node.literalValue_decodes_terminated_query : query.kind = "string" ∧
    (∀ out : List Char, query.literalValue querySource true = .ok (.text (out.map CodePoint.ofChar)) →
      ¬CharRef.Decodes (query.inner querySource) out) ∧
    query.literalValue querySource true ≠
      .ok (.text ((query.inner querySource).map CodePoint.ofChar)) := by
  obtain ⟨-, -, hdecodes, hself⟩ := literalValue_decodes_terminated query querySource rfl
  have hinner : query.inner querySource = ['&'] ++ '&' :: "copy=1".toList := by decide +kernel
  have hopens : CharRef.Opens "copy=1".toList := @CharRef.Opens.name "copy" ['=', '1'] (by decide)
  have hsemicolon : ';' ∉ query.inner querySource := by rw [hinner]; decide
  refine ⟨rfl, ?_, ?_⟩
  · intro out hvalue hout
    obtain ⟨ref, value, ht, hp⟩ := (hdecodes.1 ⟨out, hvalue, hout⟩).1 _ _ hinner hopens
    exact CharRef.not_prefix_of_not_mem (by decide) ht hp
  · intro heq
    exact (hself hsemicolon).1 heq _ _ hinner hopens

end MarkupCensus
