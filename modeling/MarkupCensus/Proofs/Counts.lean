import MarkupCensus.Proofs.Entries

namespace MarkupCensus

theorem nodup_eraseDups (xs : List String) : xs.eraseDups.Nodup := by
  match xs with
  | [] => exact List.nodup_nil
  | x :: xs =>
    rw [List.eraseDups_cons, List.nodup_cons, List.mem_eraseDups]
    exact ⟨by simp, nodup_eraseDups _⟩
termination_by xs.length
decreasing_by exact Nat.lt_succ_of_le (List.length_filter_le _ _)

namespace Count

/-- A key is more frequent than another, or equally frequent and smaller by code points. -/
def Precedes (a b : Count) : Prop := b.2 < a.2 ∨ a.2 = b.2 ∧ a.1 < b.1

variable {a b : Count}

theorem before_iff : a.before b = true ↔ b.2 < a.2 ∨ a.2 = b.2 ∧ a.1 ≤ b.1 := by
  simp [before]

theorem before_trans (a b c : Count) (hab : a.before b = true) (hbc : b.before c = true) :
    a.before c = true := by
  rw [before_iff] at *
  rcases hab with hab | ⟨hab, hkey⟩
  · left
    rcases hbc with hbc | ⟨hbc, _⟩ <;> omega
  · rcases hbc with hbc | ⟨hbc, hkey'⟩
    · left
      omega
    · exact Or.inr ⟨hab.trans hbc, hkey.trans hkey'⟩

theorem before_total (a b : Count) : (a.before b || b.before a) = true := by
  rw [Bool.or_eq_true, before_iff, before_iff]
  rcases Nat.lt_trichotomy a.2 b.2 with h | h | h
  · exact Or.inr (Or.inl h)
  · rcases le_total a.1 b.1 with hkey | hkey
    · exact Or.inl (Or.inr ⟨h, hkey⟩)
    · exact Or.inr (Or.inr ⟨h.symm, hkey⟩)
  · exact Or.inl (Or.inl h)

theorem precedes_of_before (h : a.before b = true) (hne : a.1 ≠ b.1) : a.Precedes b := by
  rcases before_iff.1 h with h | ⟨h, hkey⟩
  · exact Or.inl h
  · exact Or.inr ⟨h, lt_of_le_of_ne hkey hne⟩

theorem Precedes.asymm (hab : a.Precedes b) : ¬b.Precedes a := by
  rintro (hba | ⟨hba, hkey⟩)
  · rcases hab with hab | ⟨hab, _⟩ <;> omega
  · rcases hab with hab | ⟨_, hkey'⟩
    · omega
    · exact lt_asymm hkey hkey'

instance : Std.Irrefl Precedes := ⟨fun _ h => h.asymm h⟩

instance : Std.Antisymm Precedes := ⟨fun _ _ hab hba => absurd hba hab.asymm⟩

end Count

/-- A list names every key that is counted at all once, with its count, in the order of the
counts. -/
structure IsTally (count : String → Nat) (cs : List Count) : Prop where
  nodup : (cs.map Prod.fst).Nodup
  mem_iff : ∀ key n, (key, n) ∈ cs ↔ 0 < n ∧ n = count key
  ordered : cs.Pairwise Count.Precedes

namespace IsTally

variable {count : String → Nat}

/-- Sorting makes a tally of a list that has the right entries. -/
theorem mergeSort {cs : List Count} (hnodup : (cs.map Prod.fst).Nodup)
    (hmem : ∀ key n, (key, n) ∈ cs ↔ 0 < n ∧ n = count key) :
    IsTally count (cs.mergeSort Count.before) := by
  have hperm := List.mergeSort_perm cs Count.before
  have hsorted : (cs.mergeSort Count.before).Pairwise fun a b => a.before b = true :=
    List.pairwise_mergeSort Count.before_trans Count.before_total cs
  have hnodup' := (hperm.map Prod.fst).nodup_iff.2 hnodup
  refine ⟨hnodup', ?_, ?_⟩
  · intro key n
    rw [hperm.mem_iff, hmem]
  · exact hsorted.imp₂ (fun a b => Count.precedes_of_before) (List.pairwise_map.1 hnodup')

/-- There is one tally of given counts. -/
theorem unique {cs cs' : List Count} (h : IsTally count cs) (h' : IsTally count cs') :
    cs = cs' := by
  refine List.Pairwise.eq_of_mem_iff h.ordered h'.ordered ?_
  rintro ⟨key, n⟩
  rw [h.mem_iff, h'.mem_iff]

end IsTally

/-- The number of uses that carry a prop. -/
def carriers (us : List Instance) (prop : String) : Nat :=
  us.countP fun use => prop ∈ OrderedMap.keys use.props

theorem count_props_eq_carriers {us : List Instance}
    (h : ∀ use ∈ us, (OrderedMap.keys use.props).Nodup) (prop : String) :
    (us.flatMap fun use => use.props.map Prod.fst).count prop = carriers us prop := by
  induction us with
  | nil => rfl
  | cons use us ih =>
    have huse : (use.props.map Prod.fst).count prop =
        if prop ∈ OrderedMap.keys use.props then 1 else 0 :=
      (h use List.mem_cons_self).count
    rw [List.flatMap_cons, List.count_append, huse,
      ih fun u hu => h u (List.mem_cons_of_mem use hu), carriers, carriers, List.countP_cons]
    simp [Nat.add_comm]

/-- The props of uses, counted, are the tally of their carriers. -/
theorem isTally_propCounts {us : List Instance}
    (h : ∀ use ∈ us, (OrderedMap.keys use.props).Nodup) :
    IsTally (carriers us) (propCounts us) := by
  have hcount := count_props_eq_carriers h
  have hmem : ∀ prop, prop ∈ (us.flatMap fun use => use.props.map Prod.fst) ↔
      0 < carriers us prop := fun prop => by rw [← hcount, List.count_pos_iff]
  refine IsTally.mergeSort ?_ ?_
  · rw [List.map_map]
    exact (List.map_id _).symm ▸ nodup_eraseDups _
  · intro prop n
    simp only [List.mem_map, List.mem_eraseDups, Prod.mk.injEq, hcount, hmem]
    constructor
    · rintro ⟨p, hp, rfl, rfl⟩
      exact ⟨hp, rfl⟩
    · rintro ⟨hn, rfl⟩
      exact ⟨prop, hn, rfl, rfl⟩

theorem propCounts_perm {us us' : List Instance} (hperm : us.Perm us')
    (h : ∀ use ∈ us, (OrderedMap.keys use.props).Nodup) : propCounts us = propCounts us' := by
  have hcarriers : carriers us = carriers us' := by
    funext prop
    exact hperm.countP_eq _
  have h' : ∀ use ∈ us', (OrderedMap.keys use.props).Nodup :=
    fun use hu => h use (hperm.mem_iff.2 hu)
  have htally := isTally_propCounts h
  rw [hcarriers] at htally
  exact htally.unique (isTally_propCounts h')

namespace Report

theorem wellKeyed_addAll {r : Report} (h : r.Throughout WellKeyed) {adds : List (String × Instance)}
    (hnames : ∀ a ∈ adds, ∀ s ∈ segments a.1, s ≠ "") : (r.addAll adds).Throughout WellKeyed := by
  refine wellKeyed_run h ?_
  intro op hop
  obtain ⟨a, ha, rfl⟩ := List.mem_map.1 hop
  exact hnames a ha

end Report

/-- The uses added under a name, in order. -/
def usesUnder (adds : List (String × Instance)) (name : String) : List Instance :=
  (adds.filter fun a => a.1 = name).map Prod.snd

theorem length_usesUnder (adds : List (String × Instance)) (name : String) :
    (usesUnder adds name).length = adds.countP fun a => a.1 = name := by
  rw [usesUnder, List.length_map, List.countP_eq_length_filter]

theorem carriers_usesUnder (adds : List (String × Instance)) (name prop : String) :
    carriers (usesUnder adds name) prop =
      adds.countP fun a => a.1 = name ∧ prop ∈ OrderedMap.keys a.2.props := by
  rw [carriers, usesUnder, List.countP_map, List.countP_filter]
  congr 1
  funext a
  simp [Bool.and_comm]

theorem nodup_keys_of_mem_usesUnder {adds : List (String × Instance)}
    (hprops : ∀ a ∈ adds, (OrderedMap.keys a.2.props).Nodup) (name : String) :
    ∀ use ∈ usesUnder adds name, (OrderedMap.keys use.props).Nodup := by
  intro use hu
  obtain ⟨a, ha, rfl⟩ := List.mem_map.1 hu
  exact hprops a (List.mem_filter.1 ha).1

namespace Report

variable {adds : List (String × Instance)}

theorem wellKeyed_addAll_nil (hnames : ∀ a ∈ adds, ∀ s ∈ segments a.1, s ≠ "") :
    (addAll [] adds).Throughout WellKeyed :=
  wellKeyed_addAll (Throughout.nil WellKeyed.nil) hnames

theorem mem_uses_addAll_iff (hnames : ∀ a ∈ adds, ∀ s ∈ segments a.1, s ≠ "") {name : String}
    {us : List Instance} :
    (name, us) ∈ (addAll [] adds).uses ↔ us ≠ [] ∧ us = usesUnder adds name := by
  rw [mem_uses_iff (wellKeyed_addAll_nil hnames), instancesAt_addAll, instancesAt_empty,
    List.nil_append]
  simp only [segments_inj]
  exact and_congr_right fun _ => eq_comm

theorem isTally_counts (hnames : ∀ a ∈ adds, ∀ s ∈ segments a.1, s ≠ "") :
    IsTally (fun name => adds.countP fun a => a.1 = name) (addAll [] adds).counts := by
  refine IsTally.mergeSort ?_ ?_
  · rw [List.map_map]
    exact nodup_keys_uses (wellKeyed_addAll_nil hnames)
  · intro name n
    simp only [List.mem_map, Prod.mk.injEq, ← length_usesUnder]
    constructor
    · rintro ⟨⟨_, us⟩, hus, rfl, rfl⟩
      obtain ⟨hne, rfl⟩ := (mem_uses_addAll_iff hnames).1 hus
      exact ⟨List.length_pos_iff.2 hne, rfl⟩
    · rintro ⟨hn, rfl⟩
      exact ⟨(name, usesUnder adds name),
        (mem_uses_addAll_iff hnames).2 ⟨List.length_pos_iff.1 hn, rfl⟩, rfl, rfl⟩

/-- Leaving the props out of the longer document gives the shorter one. -/
theorem usages_map_instances (r : Report) :
    r.usages.map (fun e => (e.1, e.2.instances)) = r.counts := by
  rw [usages, List.map_mergeSort (s := Count.before) (fun _ _ _ _ => rfl), List.map_map]
  rfl

theorem mem_usages_addAll_iff (hnames : ∀ a ∈ adds, ∀ s ∈ segments a.1, s ≠ "") {name : String}
    {usage : Usage} : (name, usage) ∈ (addAll [] adds).usages ↔ usesUnder adds name ≠ [] ∧
      usage = ⟨(usesUnder adds name).length, propCounts (usesUnder adds name)⟩ := by
  rw [usages, (List.mergeSort_perm _ _).mem_iff]
  simp only [List.mem_map, Prod.mk.injEq]
  constructor
  · rintro ⟨⟨_, us⟩, hus, rfl, rfl⟩
    obtain ⟨hne, rfl⟩ := (mem_uses_addAll_iff hnames).1 hus
    exact ⟨hne, rfl⟩
  · rintro ⟨hne, rfl⟩
    exact ⟨(name, usesUnder adds name), (mem_uses_addAll_iff hnames).2 ⟨hne, rfl⟩, rfl, rfl⟩

end Report

/-- One entry of the longer document comes before another. -/
def Usage.Precedes (a b : String × Usage) : Prop :=
  Count.Precedes (a.1, a.2.instances) (b.1, b.2.instances)

instance : Std.Irrefl Usage.Precedes := ⟨fun _ h => h.asymm h⟩

instance : Std.Antisymm Usage.Precedes := ⟨fun _ _ hab hba => absurd hba hab.asymm⟩

theorem Report.usages_ordered {adds : List (String × Instance)}
    (hnames : ∀ a ∈ adds, ∀ s ∈ segments a.1, s ≠ "") :
    (addAll [] adds).usages.Pairwise Usage.Precedes := by
  have h := (isTally_counts hnames).ordered
  rw [← usages_map_instances, List.pairwise_map] at h
  exact h

section Permutation

variable {adds adds' : List (String × Instance)} (hperm : adds.Perm adds')
  (hnames : ∀ a ∈ adds, ∀ s ∈ segments a.1, s ≠ "")
  (hprops : ∀ a ∈ adds, (OrderedMap.keys a.2.props).Nodup)

include hperm hnames in
theorem Report.counts_perm : (addAll [] adds).counts = (addAll [] adds').counts := by
  have hnames' : ∀ a ∈ adds', ∀ s ∈ segments a.1, s ≠ "" :=
    fun a ha => hnames a (hperm.mem_iff.2 ha)
  have htally := isTally_counts hnames
  simp only [hperm.countP_eq] at htally
  exact htally.unique (isTally_counts hnames')

include hperm hnames hprops in
theorem Report.usages_perm : (addAll [] adds).usages = (addAll [] adds').usages := by
  have hnames' : ∀ a ∈ adds', ∀ s ∈ segments a.1, s ≠ "" :=
    fun a ha => hnames a (hperm.mem_iff.2 ha)
  refine (usages_ordered hnames).eq_of_mem_iff (usages_ordered hnames') ?_
  rintro ⟨name, usage⟩
  have huses : (usesUnder adds name).Perm (usesUnder adds' name) := (hperm.filter _).map _
  rw [mem_usages_addAll_iff hnames, mem_usages_addAll_iff hnames', huses.length_eq,
    propCounts_perm huses (nodup_keys_of_mem_usesUnder hprops name), ← List.length_pos_iff,
    ← List.length_pos_iff, huses.length_eq]

end Permutation

/-- What is counted in a report that has grown use by use, under names without empty segments. Every
name that was added has one entry, with the number of its uses; with the props, every entry has a
tally of the uses that carry each of them. The documents depend on what was added, not on the
order. -/
theorem counts_addAll (adds : List (String × Instance))
    (hnames : ∀ a ∈ adds, ∀ s ∈ segments a.1, s ≠ "")
    (hprops : ∀ a ∈ adds, (OrderedMap.keys a.2.props).Nodup) :
    IsTally (fun name => adds.countP fun a => a.1 = name) (Report.addAll [] adds).counts ∧
    (Report.addAll [] adds).usages.map (fun e => (e.1, e.2.instances)) =
      (Report.addAll [] adds).counts ∧
    (∀ e ∈ (Report.addAll [] adds).usages, IsTally
      (fun prop => adds.countP fun a => a.1 = e.1 ∧ prop ∈ OrderedMap.keys a.2.props) e.2.props) ∧
    ∀ adds', adds.Perm adds' →
      (Report.addAll [] adds).counts = (Report.addAll [] adds').counts ∧
      (Report.addAll [] adds).usages = (Report.addAll [] adds').usages := by
  refine ⟨Report.isTally_counts hnames, Report.usages_map_instances _, ?_, ?_⟩
  · rintro ⟨name, usage⟩ he
    obtain ⟨_, rfl⟩ := (Report.mem_usages_addAll_iff hnames).1 he
    simp only [← carriers_usesUnder]
    exact isTally_propCounts (nodup_keys_of_mem_usesUnder hprops name)
  · intro adds' hperm
    exact ⟨Report.counts_perm hperm hnames, Report.usages_perm hperm hnames hprops⟩

namespace Sample

/-- Uses of a component and of one below it, with props that two of them share. -/
def adds : List (String × Instance) :=
  [("Menu.Item", { props := [("to", .null), ("as", .bool true)], location := ⟨"menu.jsx", 1, 1⟩ }),
    ("Menu", { props := [("to", .null)], location := ⟨"menu.jsx", 2, 1⟩ }),
    ("Menu.Item", { props := [("to", .null)], location := ⟨"menu.jsx", 3, 1⟩ })]

end Sample

/-- The component below another has two uses of its own, in whichever order the three are added. -/
theorem counts_addAll_menu :
    IsTally (fun name => Sample.adds.countP fun a => a.1 = name)
      (Report.addAll [] Sample.adds).counts ∧
    ("Menu.Item", 2) ∈ (Report.addAll [] Sample.adds).counts ∧
    (Report.addAll [] Sample.adds).usages = (Report.addAll [] Sample.adds.reverse).usages := by
  have hnames : ∀ a ∈ Sample.adds, ∀ s ∈ segments a.1, s ≠ "" := by decide
  have hprops : ∀ a ∈ Sample.adds, (OrderedMap.keys a.2.props).Nodup := by decide
  obtain ⟨hcounts, _, _, hperm⟩ := counts_addAll Sample.adds hnames hprops
  refine ⟨hcounts, ?_, (hperm Sample.adds.reverse (List.reverse_perm _).symm).2⟩
  rw [hcounts.mem_iff]
  decide

end MarkupCensus
