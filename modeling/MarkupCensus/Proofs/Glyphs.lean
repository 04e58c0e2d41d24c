import Mathlib.Data.List.Basic
import Mathlib.Data.List.Nodup
import MarkupCensus.Terminal.Glyph

namespace MarkupCensus.Terminal

/-- Characters, each with the text that stands for it. -/
abbrev GlyphTable := List (Char × String)

/-- Replaces the characters of a table one after another, in its order. -/
def replaceAll (table : GlyphTable) (cs : List Char) : List Char :=
  table.foldl (fun cs g => replaceChar g.1 g.2.toList cs) cs

/-- What a table puts in the place of a character: itself if the table does not have it. -/
def substitute (table : GlyphTable) (c : Char) : List Char :=
  match table.lookup c with
  | some text => text.toList
  | none => [c]

/-- No text of a table has a character of the table. -/
def IsResolved (table : GlyphTable) : Prop := ∀ g ∈ table, ∀ h ∈ table, h.1 ∉ g.2.toList

variable {table table' : GlyphTable} {g : Char × String} {c : Char} {cs : List Char}

section Substitute

theorem substitute_cons (g : Char × String) (table : GlyphTable) (c : Char) :
    substitute (g :: table) c = if c = g.1 then g.2.toList else substitute table c := by
  rw [substitute, List.lookup_cons]
  by_cases hc : c = g.1
  · simp [hc]
  · rw [beq_eq_false_iff_ne.2 hc, if_neg hc]
    rfl

/-- A character is replaced by the text of an entry, or the table does not have it and it stays. -/
theorem substitute_cases (table : GlyphTable) (c : Char) :
    (∃ g ∈ table, g.1 = c ∧ substitute table c = g.2.toList) ∨
      ((∀ g ∈ table, g.1 ≠ c) ∧ substitute table c = [c]) := by
  induction table with
  | nil => exact Or.inr ⟨by simp, rfl⟩
  | cons g table ih =>
    rw [substitute_cons]
    by_cases hc : c = g.1
    · exact Or.inl ⟨g, List.mem_cons_self, hc.symm, if_pos hc⟩
    · rw [if_neg hc]
      rcases ih with ⟨k, hk, hkc, htext⟩ | ⟨hne, hself⟩
      · exact Or.inl ⟨k, List.mem_cons_of_mem g hk, hkc, htext⟩
      · exact Or.inr ⟨List.forall_mem_cons.2 ⟨Ne.symm hc, hne⟩, hself⟩

theorem substitute_eq_self (h : ∀ g ∈ table, g.1 ≠ c) : substitute table c = [c] := by
  rcases substitute_cases table c with ⟨g, hg, hgc, -⟩ | ⟨-, hself⟩
  · exact absurd hgc (h g hg)
  · exact hself

theorem not_mem_substitute (h : IsResolved table) (hg : g ∈ table) (c : Char) :
    g.1 ∉ substitute table c := by
  rcases substitute_cases table c with ⟨k, hk, -, htext⟩ | ⟨hne, hself⟩
  · rw [htext]
    exact h k hk g hg
  · rw [hself, List.mem_singleton]
    exact hne g hg

theorem substitute_perm (hp : table.Perm table') (hn : (table.map Prod.fst).Nodup) (c : Char) :
    substitute table c = substitute table' c := by
  rcases substitute_cases table c with ⟨g, hg, hgc, htext⟩ | ⟨hne, hself⟩
  · rcases substitute_cases table' c with ⟨g', hg', hgc', htext'⟩ | ⟨hne', -⟩
    · have hsame : g = g' := List.inj_on_of_nodup_map hn hg (hp.mem_iff.2 hg') (hgc.trans hgc'.symm)
      rw [htext, htext', hsame]
    · exact absurd hgc (hne' g (hp.mem_iff.1 hg))
  · rw [hself, substitute_eq_self fun g hg => hne g (hp.mem_iff.2 hg)]

theorem flatMap_substitute_eq_self (h : ∀ g ∈ table, g.1 ∉ cs) :
    cs.flatMap (substitute table) = cs := by
  induction cs with
  | nil => rfl
  | cons c cs ih =>
    have hc : ∀ g ∈ table, g.1 ≠ c := fun g hg => List.ne_of_not_mem_cons (h g hg)
    have hcs : ∀ g ∈ table, g.1 ∉ cs := fun g hg => List.not_mem_of_not_mem_cons (h g hg)
    rw [List.flatMap_cons, substitute_eq_self hc, ih hcs, List.singleton_append]

theorem not_mem_flatMap_substitute (h : IsResolved table) (hg : g ∈ table) :
    g.1 ∉ cs.flatMap (substitute table) := by
  intro hmem
  obtain ⟨c, -, hc⟩ := List.mem_flatMap.1 hmem
  exact not_mem_substitute h hg c hc

/-- The characters that a table does not have stay, in their order. -/
theorem filter_sublist_flatMap_substitute (table : GlyphTable) (cs : List Char) :
    (cs.filter fun c => ∀ g ∈ table, g.1 ≠ c).Sublist (cs.flatMap (substitute table)) := by
  induction cs with
  | nil => exact List.Sublist.slnil
  | cons c cs ih =>
    rw [List.flatMap_cons]
    by_cases hc : ∀ g ∈ table, g.1 ≠ c
    · rw [List.filter_cons, if_pos (decide_eq_true hc), substitute_eq_self hc]
      exact ih.cons_cons c
    · rw [List.filter_cons, decide_eq_false hc, if_neg Bool.false_ne_true]
      exact ih.trans (List.sublist_append_right _ _)

end Substitute

/-- Replacing the characters of a table one after another is replacing all of them at once if no
replacement is replaced in its turn. -/
theorem replaceAll_eq_flatMap (h : IsResolved table) (cs : List Char) :
    replaceAll table cs = cs.flatMap (substitute table) := by
  induction table generalizing cs with
  | nil => exact (flatMap_substitute_eq_self (by simp)).symm
  | cons g table ih =>
    have htable : IsResolved table := fun k hk l hl =>
      h k (List.mem_cons_of_mem g hk) l (List.mem_cons_of_mem g hl)
    -- later entries leave the text of this one alone
    have htext : g.2.toList.flatMap (substitute table) = g.2.toList :=
      flatMap_substitute_eq_self fun k hk => h g List.mem_cons_self k (List.mem_cons_of_mem g hk)
    calc replaceAll (g :: table) cs
        = replaceAll table (replaceChar g.1 g.2.toList cs) := rfl
      _ = (replaceChar g.1 g.2.toList cs).flatMap (substitute table) := ih htable _
      _ = cs.flatMap fun c => (if c = g.1 then g.2.toList else [c]).flatMap (substitute table) := by
        rw [replaceChar, List.flatMap_assoc]
      _ = cs.flatMap (substitute (g :: table)) := by
        congr 1
        funext c
        rw [substitute_cons]
        split
        · exact htext
        · exact List.flatMap_singleton _ c

theorem IsResolved.perm (h : IsResolved table) (hp : table.Perm table') : IsResolved table' :=
  fun g hg k hk => h g (hp.mem_iff.2 hg) k (hp.mem_iff.2 hk)

/-- Where each character has one entry, the order of the entries does not matter. -/
theorem replaceAll_perm (h : IsResolved table) (hn : (table.map Prod.fst).Nodup)
    (hp : table.Perm table') (cs : List Char) : replaceAll table cs = replaceAll table' cs := by
  rw [replaceAll_eq_flatMap h, replaceAll_eq_flatMap (h.perm hp)]
  exact List.flatMap_congr fun c _ => substitute_perm hp hn c

theorem isResolved_glyphs : IsResolved glyphs := by
  unfold IsResolved
  decide

theorem nodup_glyphs : (glyphs.map Prod.fst).Nodup := by decide

theorem replaceGlyphs_eq_flatMap (cs : List Char) :
    replaceGlyphs cs = cs.flatMap (substitute glyphs) :=
  replaceAll_eq_flatMap isResolved_glyphs cs

section Sanitize

variable {encoding : String}

theorem toList_sanitize (h : isUniversal encoding = false) (text : String) :
    (sanitize encoding text).toList = text.toList.flatMap (substitute glyphs) := by
  rw [sanitize, h, if_neg Bool.false_ne_true, String.toList_ofList, replaceGlyphs_eq_flatMap]

theorem sanitize_append (encoding a b : String) :
    sanitize encoding (a ++ b) = sanitize encoding a ++ sanitize encoding b := by
  cases h : isUniversal encoding with
  | true => simp only [sanitize, h, if_true]
  | false =>
    apply String.toList_inj.1
    rw [String.toList_append, toList_sanitize h, toList_sanitize h, toList_sanitize h,
      String.toList_append, List.flatMap_append]

theorem sanitize_eq_self {text : String} (h : ∀ g ∈ glyphs, g.1 ∉ text.toList) :
    sanitize encoding text = text := by
  cases hu : isUniversal encoding with
  | true => rw [sanitize, hu, if_pos rfl]
  | false =>
    apply String.toList_inj.1
    rw [toList_sanitize hu, flatMap_substitute_eq_self h]

theorem sanitize_intercalate {separator : String} (h : sanitize encoding separator = separator)
    (texts : List String) : sanitize encoding (separator.intercalate texts) =
      separator.intercalate (texts.map (sanitize encoding)) := by
  induction texts with
  | nil => exact sanitize_eq_self (by simp)
  | cons text texts ih =>
    cases texts with
    | nil => simp
    | cons next texts =>
      rw [List.map_cons] at ih
      rw [String.intercalate_cons_cons, sanitize_append, sanitize_append, h, ih, List.map_cons,
        List.map_cons, String.intercalate_cons_cons]

/-- A line shows its objects as it would show the text that they make together. -/
theorem line_eq_sanitize (encoding : String) (objects : List String) :
    line encoding objects = sanitize encoding (" ".intercalate objects ++ "\n") := by
  have hspace : sanitize encoding " " = " " := sanitize_eq_self (by decide)
  have hend : sanitize encoding "\n" = "\n" := sanitize_eq_self (by decide)
  rw [line, sanitize_append, sanitize_intercalate hspace, hend]

/-- Where the glyphs cannot be shown, the replacements made one after another come to one replacement
of every glyph at once: no glyph is left, every other character keeps its place and its order, a text
is shown as its parts are, what is shown is shown as it is, and the replacements may come in any
order. -/
theorem sanitize_substitutes (h : isUniversal encoding = false) (text : String) :
    (sanitize encoding text).toList = text.toList.flatMap (substitute glyphs) ∧
    (∀ g ∈ glyphs, g.1 ∉ (sanitize encoding text).toList) ∧
    (∀ before c after, (∀ g ∈ glyphs, g.1 ≠ c) → text = before ++ String.singleton c ++ after →
      sanitize encoding text =
        sanitize encoding before ++ String.singleton c ++ sanitize encoding after) ∧
    (text.toList.filter fun c => ∀ g ∈ glyphs, g.1 ≠ c).Sublist (sanitize encoding text).toList ∧
    (∀ rest, sanitize encoding (text ++ rest) = sanitize encoding text ++ sanitize encoding rest) ∧
    sanitize encoding (sanitize encoding text) = sanitize encoding text ∧
    ∀ table, glyphs.Perm table → (sanitize encoding text).toList = replaceAll table text.toList := by
  have hlist := toList_sanitize h text
  have hclean : ∀ g ∈ glyphs, g.1 ∉ (sanitize encoding text).toList := by
    intro g hg
    rw [hlist]
    exact not_mem_flatMap_substitute isResolved_glyphs hg
  refine ⟨hlist, hclean, ?_, ?_, sanitize_append encoding text, sanitize_eq_self hclean, ?_⟩
  · intro before c after hc htext
    have hkept : sanitize encoding (String.singleton c) = String.singleton c := by
      apply sanitize_eq_self
      intro g hg
      rw [String.toList_singleton, List.mem_singleton]
      exact hc g hg
    rw [htext, sanitize_append, sanitize_append, hkept]
  · rw [hlist]
    exact filter_sublist_flatMap_substitute glyphs text.toList
  · intro table hp
    rw [hlist, ← replaceGlyphs_eq_flatMap]
    exact replaceAll_perm isResolved_glyphs nodup_glyphs hp text.toList

/-- A terminal of a code page of Windows. -/
def codePage : String := Terminal.encoding (some "CP1252") none

/-- The letter between the glyphs stays where it is, though it is no ASCII character either. -/
theorem sanitize_substitutes_codePage :
    isUniversal codePage = false ∧
    sanitize codePage "✓ é → 📦" = "[OK] é -> [pkg]" ∧
    sanitize codePage "✓ é → 📦" =
      sanitize codePage "✓ " ++ String.singleton 'é' ++ sanitize codePage " → 📦" ∧
    "[OK] é -> [pkg]".toList = replaceAll glyphs.reverse "✓ é → 📦".toList := by
  have hpage : isUniversal codePage = false := by decide
  obtain ⟨hlist, -, hplace, -, -, -, horder⟩ := sanitize_substitutes hpage "✓ é → 📦"
  have hshown : sanitize codePage "✓ é → 📦" = "[OK] é -> [pkg]" := by
    apply String.toList_inj.1
    rw [hlist]
    decide
  refine ⟨hpage, hshown, hplace "✓ " 'é' " → 📦" (by decide) (by decide), ?_⟩
  rw [← hshown]
  exact horder glyphs.reverse glyphs.reverse_perm.symm

end Sanitize

end MarkupCensus.Terminal
