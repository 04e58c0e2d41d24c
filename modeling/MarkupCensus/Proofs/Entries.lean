import MarkupCensus.Proofs.Positions
import MarkupCensus.Report.Processor

namespace MarkupCensus

namespace Report

theorem map_fst_entries (above : String) (r : Report) :
    (entries above r).map Prod.fst = (iterate above r).map Prod.fst := by
  rw [entries, List.map_map]
  rfl

/-- The entries are the uses of the components at all paths, under the names of the paths. -/
theorem mem_entries_iff {r : Report} (h : r.Throughout WellKeyed) {e : String × List Instance} :
    e ∈ entries "" r ↔
      ∃ q c, q ≠ [] ∧ r.findAt? q = some c ∧ e = (".".intercalate q, c.instances) := by
  rw [entries, iterate_eq_positions h, List.map_map, List.mem_map]
  constructor
  · rintro ⟨⟨q, c⟩, hqc, rfl⟩
    obtain ⟨hq, hc⟩ := (mem_positions_iff h).1 hqc
    exact ⟨q, c, hq, hc, rfl⟩
  · rintro ⟨q, c, hq, hc, rfl⟩
    exact ⟨(q, c), (mem_positions_iff h).2 ⟨hq, hc⟩, rfl⟩

/-- No two components go under one name. -/
theorem nodup_entries {r : Report} (h : r.Throughout WellKeyed) :
    ((entries "" r).map Prod.fst).Nodup := by
  rw [map_fst_entries]
  exact nodup_iterate h

theorem uses_eq_filter {r : Report} (h : r.Throughout WellKeyed) :
    r.uses = (entries "" r).filter fun e => !e.2.isEmpty :=
  OrderedMap.ofPairs_eq_self ((nodup_entries h).sublist (List.filter_sublist.map _))

theorem nodup_keys_uses {r : Report} (h : r.Throughout WellKeyed) :
    (r.uses.map Prod.fst).Nodup := by
  rw [uses_eq_filter h]
  exact (nodup_entries h).sublist (List.filter_sublist.map _)

/-- The uses of a name, as the processors see them, are those recorded at its path. -/
theorem mem_uses_iff {r : Report} (h : r.Throughout WellKeyed) {name : String}
    {us : List Instance} : (name, us) ∈ r.uses ↔ us ≠ [] ∧ r.instancesAt (segments name) = us := by
  rw [uses_eq_filter h, List.mem_filter, mem_entries_iff h]
  constructor
  · rintro ⟨⟨q, c, hq, hc, he⟩, hne⟩
    obtain ⟨rfl, rfl⟩ := Prod.mk.inj he
    have hpath := (isPath_of_findAt? h hc).segments_eq hq
    refine ⟨by simpa using hne, ?_⟩
    rw [hpath, instancesAt, Component.instancesAt, ← findAt?, hc]
    rfl
  · rintro ⟨hne, rfl⟩
    rw [instancesAt, Component.instancesAt, ← findAt?] at hne ⊢
    cases hc : r.findAt? (segments name) with
    | none => simp [hc] at hne
    | some c =>
      refine ⟨⟨segments name, c, segments_ne_nil name, hc, ?_⟩, ?_⟩
      · rw [intercalate_segments]
        rfl
      · simpa [hc] using hne

end Report

end MarkupCensus
