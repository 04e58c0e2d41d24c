import MarkupCensus.Project.Discovery
import Mathlib.Data.List.Basic

namespace MarkupCensus

section Extension

variable {stem stem' after after' name : List Char}

theorem takeWhile_after_dot (stem : List Char) (h : '.' ∉ after) :
    ((stem ++ '.' :: after).reverse.takeWhile (· != '.')).reverse = after := by
  rw [List.reverse_append, List.reverse_cons, List.append_assoc, List.takeWhile_append_of_pos]
  · simp
  · intro c hc
    rw [List.mem_reverse] at hc
    simpa using fun hdot : c = '.' => h (hdot ▸ hc)

/-- There is one last dot. -/
theorem append_dot_inj (h : stem ++ '.' :: after = stem' ++ '.' :: after') (ha : '.' ∉ after)
    (ha' : '.' ∉ after') : after = after' := by
  rw [← takeWhile_after_dot stem ha, h, takeWhile_after_dot stem' ha']

theorem extension_append (hs : stem ≠ []) (hne : after ≠ []) (ha : '.' ∉ after) :
    extension (stem ++ '.' :: after) = '.' :: after := by
  have hstem : 0 < stem.length := List.length_pos_iff.2 hs
  rw [extension, takeWhile_after_dot stem ha]
  simp [hne]
  omega

/-- A name with an extension has something before it. -/
theorem exists_stem_of_extension (h : extension name ≠ []) :
    ∃ stem, stem ≠ [] ∧ name = stem ++ extension name := by
  have hsplit : (name.reverse.dropWhile (· != '.')).reverse ++
      (name.reverse.takeWhile (· != '.')).reverse = name := by
    rw [← List.reverse_append, List.takeWhile_append_dropWhile, List.reverse_reverse]
  generalize hrest : name.reverse.dropWhile (· != '.') = rest at hsplit
  generalize hafter : (name.reverse.takeWhile (· != '.')).reverse = after at hsplit
  have hext : extension name = '.' :: after ∧ 1 < rest.length := by
    have hlength : name.length - after.length = rest.length := by simp [← hsplit]
    rw [extension, hafter, hlength] at h ⊢
    split at h
    · next hc =>
      rw [if_pos hc]
      simp only [Bool.and_eq_true, decide_eq_true_eq] at hc
      exact ⟨rfl, hc.1⟩
    · exact absurd rfl h
  obtain ⟨hext, hlong⟩ := hext
  -- what is left starts, read backwards, with the last dot
  cases rest with
  | nil => simp at hlong
  | cons c rest =>
    have hc : c = '.' := by
      have hhead := List.head?_dropWhile_not (· != '.') name.reverse
      simpa [hrest] using hhead
    subst hc
    refine ⟨rest.reverse, ?_, ?_⟩
    · rw [ne_eq, List.reverse_eq_nil_iff]
      rintro rfl
      simp at hlong
    · rw [hext, ← hsplit]
      simp

end Extension

/-- Whether a text ends in one of some endings. -/
def EndsIn (endings : List String) (cs : List Char) : Prop :=
  ∃ stem, ∃ ending ∈ endings, cs = stem ++ ending.toList

/-- A file that may hold markup, by its name, whose case does not matter: something, then an extension
of sources, but not the ending of a file that only declares types. -/
structure IsSourceName (name : String) : Prop where
  extension : ∃ stem ≠ [], ∃ ext ∈ sourceExtensions, Case.lowerCase name.toList = stem ++ ext.toList
  declaration : ¬EndsIn declarationEndings (Case.lowerCase name.toList)

/-- A file that tests others, by its name, whose case does not matter: `.test` or `.spec` before the
extension of a source. -/
def IsTestName (name : String) : Prop :=
  ∃ stem, ∃ mark ∈ [".test", ".spec"], ∃ ext ∈ sourceExtensions,
    plainLower name = stem ++ mark.toList ++ ext.toList

theorem any_isSuffixOf_iff {endings : List String} {cs : List Char} :
    (endings.any fun e => e.toList.isSuffixOf cs) = true ↔ EndsIn endings cs := by
  simp only [List.any_eq_true, List.isSuffixOf_iff_suffix, EndsIn]
  constructor
  · rintro ⟨e, he, stem, hcs⟩
    exact ⟨stem, e, he, hcs.symm⟩
  · rintro ⟨stem, e, he, hcs⟩
    exact ⟨e, he, stem, hcs.symm⟩

/-- An extension of sources is a dot and what holds none. -/
theorem exists_after_of_mem_sourceExtensions {ext : String} (h : ext ∈ sourceExtensions) :
    ∃ after, after ≠ [] ∧ '.' ∉ after ∧ ext.toList = '.' :: after := by
  simp only [sourceExtensions, List.mem_cons, List.not_mem_nil, or_false] at h
  rcases h with rfl | rfl | rfl | rfl | rfl | rfl | rfl | rfl
  all_goals exact ⟨_, by decide, by decide, rfl⟩

theorem isSourceName_iff (name : String) : isSourceName name = true ↔ IsSourceName name := by
  have hextension : sourceExtensions.contains
      (String.ofList (MarkupCensus.extension (Case.lowerCase name.toList))) = true ↔
      ∃ stem ≠ [], ∃ ext ∈ sourceExtensions, Case.lowerCase name.toList = stem ++ ext.toList := by
    rw [List.contains_iff_mem]
    constructor
    · intro hmem
      obtain ⟨after, -, -, hafter⟩ := exists_after_of_mem_sourceExtensions hmem
      rw [String.toList_ofList] at hafter
      obtain ⟨stem, hstem, hname⟩ :=
        exists_stem_of_extension (by rw [hafter]; exact List.cons_ne_nil _ _)
      exact ⟨stem, hstem, _, hmem, by rw [String.toList_ofList]; exact hname⟩
    · rintro ⟨stem, hstem, ext, hext, hname⟩
      obtain ⟨after, hne, hdot, hafter⟩ := exists_after_of_mem_sourceExtensions hext
      rw [hname, hafter, extension_append hstem hne hdot, ← hafter, String.ofList_toList]
      exact hext
  rw [isSourceName, Bool.and_eq_true, hextension, Bool.not_eq_true', ← Bool.not_eq_true,
    any_isSuffixOf_iff]
  exact ⟨fun h => ⟨h.2, h.1⟩, fun h => ⟨h.declaration, h.extension⟩⟩

/-- The ending of a file that tests others is a mark and what looks like an extension. -/
theorem exists_mark_of_mem_testEndings {ending : String} (h : ending ∈ testEndings) :
    ∃ mark ∈ [".test", ".spec"], ∃ after, '.' ∉ after ∧
      ending.toList = mark.toList ++ '.' :: after := by
  simp only [testEndings, List.mem_flatMap, List.mem_map] at h
  obtain ⟨mark, hmark, flavour, hflavour, language, hlanguage, rfl⟩ := h
  have hflavour' : '.' ∉ flavour.toList := by revert flavour; decide
  have hlanguage' : '.' ∉ language.toList := by revert language; decide
  have hafter : '.' ∉ flavour.toList ++ language.toList := by simp [hflavour', hlanguage']
  rw [String.toList_append, String.toList_append, List.append_assoc]
  simp only [List.mem_cons, List.not_mem_nil, or_false] at hmark
  rcases hmark with rfl | rfl
  · exact ⟨".test", by simp, _, hafter, rfl⟩
  · exact ⟨".spec", by simp, _, hafter, rfl⟩

theorem mem_testEndings {mark ext : String} (hm : mark ∈ [".test", ".spec"])
    (he : ext ∈ sourceExtensions) : mark ++ ext ∈ testEndings := by
  have hall : ∀ mark ∈ [".test", ".spec"], ∀ ext ∈ sourceExtensions, mark ++ ext ∈ testEndings := by
    decide
  exact hall mark hm ext he

theorem plainLower_of_lowerCase {name ext : String} {stem : List Char} (h : ext ∈ sourceExtensions)
    (hname : Case.lowerCase name.toList = stem ++ ext.toList) :
    ∃ stem', plainLower name = stem' ++ ext.toList := by
  have hext : ext.toList.map (fun c => if c.toNat == 0x17F then 's' else c) = ext.toList := by
    clear hname
    revert ext
    decide
  rw [plainLower, hname, List.map_append, hext]
  exact ⟨_, rfl⟩

/-- Of the names of sources, those of files that test others have a mark before their extension. -/
theorem isTestName_iff {name : String} (h : IsSourceName name) :
    isTestName name = true ↔ IsTestName name := by
  rw [isTestName, any_isSuffixOf_iff]
  constructor
  · rintro ⟨stem, ending, hending, hname⟩
    obtain ⟨mark, hmark, after, hafter, hspelled⟩ := exists_mark_of_mem_testEndings hending
    obtain ⟨stem', -, ext, hext, hlower⟩ := h.extension
    obtain ⟨stem'', hplain⟩ := plainLower_of_lowerCase hext hlower
    obtain ⟨after', -, hafter', hspelled'⟩ := exists_after_of_mem_sourceExtensions hext
    -- both extensions start at the last dot
    have hdots : (stem ++ mark.toList) ++ '.' :: after = stem'' ++ '.' :: after' := by
      rw [List.append_assoc, ← hspelled, ← hname, hplain, hspelled']
    have hsame := append_dot_inj hdots hafter hafter'
    refine ⟨stem, mark, hmark, ext, hext, ?_⟩
    rw [hname, hspelled, hsame, ← hspelled', List.append_assoc]
  · rintro ⟨stem, mark, hmark, ext, hext, hname⟩
    refine ⟨stem, mark ++ ext, mem_testEndings hmark hext, ?_⟩
    rw [hname, String.toList_append, List.append_assoc]

end MarkupCensus
