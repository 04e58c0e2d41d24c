import Mathlib.Data.List.Basic
import MarkupCensus.Report.Basic

namespace MarkupCensus

namespace Split

theorem split_eq_splitOn (sep : Char) (cs : List Char) : split sep cs = cs.splitOn sep := by
  induction cs with
  | nil => rfl
  | cons c cs ih =>
    rw [List.splitOn_cons_eq_if_modifyHead, ← ih, split]
    by_cases h : c = sep
    · simp [h]
    · simp only [h, if_false, beq_iff_eq]
      cases hp : split sep cs with
      | nil => exact absurd hp (split_ne_nil sep cs)
      | cons part parts => rfl

theorem split_append (sep : Char) (as bs : List Char) :
    split sep (as ++ sep :: bs) = split sep as ++ split sep bs := by
  rw [split_eq_splitOn, split_eq_splitOn, split_eq_splitOn, List.splitOn_append_cons_self]

theorem not_mem_of_mem_split {sep : Char} {cs part : List Char} (h : part ∈ split sep cs) :
    sep ∉ part := by
  induction cs generalizing part with
  | nil =>
    rw [List.mem_singleton.1 h]
    exact List.not_mem_nil
  | cons c cs ih =>
    rw [split] at h
    by_cases hc : c = sep
    · rw [if_pos hc] at h
      rcases List.mem_cons.1 h with rfl | h
      · exact List.not_mem_nil
      · exact ih h
    · rw [if_neg hc] at h
      cases hp : split sep cs with
      | nil => exact absurd hp (split_ne_nil sep cs)
      | cons head parts =>
        rw [hp] at h ih
        rcases List.mem_cons.1 h with rfl | h
        · have := ih List.mem_cons_self
          simp [this, Ne.symm hc]
        · exact ih (List.mem_cons_of_mem head h)

end Split

theorem segments_ne_nil (name : String) : segments name ≠ [] := by
  simp [segments, Split.split_ne_nil]

theorem dot_not_mem_of_mem_segments {name s : String} (h : s ∈ segments name) : '.' ∉ s.toList := by
  obtain ⟨part, hp, rfl⟩ := List.mem_map.1 h
  rw [String.toList_ofList]
  exact Split.not_mem_of_mem_split hp

theorem intercalate_segments (name : String) : ".".intercalate (segments name) = name := by
  apply String.toList_inj.1
  rw [String.toList_intercalate, segments, List.map_map, String.toList_comp_ofList, List.map_id,
    Split.split_eq_splitOn]
  exact List.intercalate_splitOn '.'

theorem segments_inj {a b : String} : segments a = segments b ↔ a = b := by
  refine ⟨fun h => ?_, fun h => congrArg segments h⟩
  rw [← intercalate_segments a, h, intercalate_segments]

/-- A path of segments without dots is that of the name which joins them by dots. -/
theorem segments_intercalate {path : List String} (hne : path ≠ [])
    (hdot : ∀ s ∈ path, '.' ∉ s.toList) : segments (".".intercalate path) = path := by
  have hs : ((['.'] : List Char).intercalate (path.map String.toList)).splitOn '.' =
      path.map String.toList := by
    refine List.splitOn_intercalate '.' ?_ (by simpa using hne)
    intro cs hcs
    obtain ⟨s, hs, rfl⟩ := List.mem_map.1 hcs
    exact hdot s hs
  rw [segments, Split.split_eq_splitOn, String.toList_intercalate]
  refine (congrArg (List.map String.ofList) hs).trans ?_
  rw [List.map_map, String.ofList_comp_toList, List.map_id]

theorem segments_eq_iff {path : List String} (hne : path ≠ [])
    (hdot : ∀ s ∈ path, '.' ∉ s.toList) {name : String} :
    segments name = path ↔ name = ".".intercalate path := by
  constructor
  · rintro rfl
    exact (intercalate_segments name).symm
  · rintro rfl
    exact segments_intercalate hne hdot

end MarkupCensus
