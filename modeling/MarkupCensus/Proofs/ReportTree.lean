import MarkupCensus.Proofs.OrderedMap
import MarkupCensus.Proofs.Segments

namespace MarkupCensus

/-- A property of one level holds at every level of a report. -/
inductive Report.Throughout (P : Report → Prop) : Report → Prop
  | intro {r : Report} (here : P r)
      (below : ∀ e ∈ r, Report.Throughout P (Component.components e.2)) : Report.Throughout P r

/-- No key occurs twice at any level of a report. -/
def Report.Distinct (r : Report) : Prop := r.Throughout fun level => (OrderedMap.keys level).Nodup

/-- A property of a key and its component holds at every level of a report. -/
def Report.Each (P : String → Component → Prop) (r : Report) : Prop :=
  r.Throughout fun level => ∀ e ∈ level, P e.1 e.2

namespace Component

@[simp] theorem instances_mk (uses : Option (List Instance)) (below : Option Report) :
    instances ⟨uses, below⟩ = uses.getD [] := rfl

@[simp] theorem components_mk (uses : Option (List Instance)) (below : Option Report) :
    components ⟨uses, below⟩ = below.getD [] := rfl

theorem components_alter_cons (f : Component → Component) (s : String) (path : List String)
    (c : Component) : (alter f (s :: path) c).components =
      OrderedMap.alter c.components s fun o => alter f path (o.getD {}) := rfl

/-- The uses recorded at the end of a path. -/
def instancesAt (path : List String) (c : Component) : List Instance :=
  ((find? path c).map instances).getD []

/-- The component, or one below it, has a use. -/
def IsUsed (c : Component) : Prop := ∃ path d, find? path c = some d ∧ d.instances ≠ []

/-- Nothing is there for nothing: a field that is present holds something, and there is a use. -/
structure Proper (c : Component) : Prop where
  instances : c.instances? ≠ some []
  components : c.components? ≠ some []
  used : c.IsUsed

@[simp] theorem instancesAt_nil (c : Component) : instancesAt [] c = c.instances := rfl

@[simp] theorem instancesAt_empty (path : List String) : instancesAt path {} = [] := by
  cases path <;> rfl

theorem instancesAt_cons (s : String) (path : List String) (c : Component) :
    instancesAt (s :: path) c =
      instancesAt path ((OrderedMap.get? c.components s).getD {}) := by
  cases h : OrderedMap.get? c.components s with
  | none =>
    rw [Option.getD_none, instancesAt_empty, instancesAt, find?, h]
    rfl
  | some d =>
    rw [instancesAt, find?, h]
    rfl

/-- A change that appends uses appends them at its own path, and no other path is touched. -/
theorem instancesAt_alter {f : Component → Component} {us : List Instance}
    (hc : ∀ c, (f c).components = c.components) (hi : ∀ c, (f c).instances = c.instances ++ us)
    (p q : List String) (c : Component) :
    instancesAt q (alter f p c) = instancesAt q c ++ if p = q then us else [] := by
  induction p generalizing q c with
  | nil =>
    cases q with
    | nil => simp [alter, hi]
    | cons t q => simp [alter, instancesAt_cons, hc]
  | cons s p ih =>
    cases q with
    | nil =>
      have hi : (alter f (s :: p) c).instances = c.instances := rfl
      simp [hi]
    | cons t q =>
      rw [instancesAt_cons, instancesAt_cons, components_alter_cons, OrderedMap.get?_alter]
      by_cases h : t = s
      · subst h
        simpa using ih q _
      · simp [h, Ne.symm h]

theorem find?_alter_self (f : Component → Component) (path : List String) (c : Component) :
    ∃ d, find? path (alter f path c) = some (f d) := by
  induction path generalizing c with
  | nil => exact ⟨c, rfl⟩
  | cons s path ih =>
    obtain ⟨d, hd⟩ := ih ((OrderedMap.get? c.components s).getD {})
    refine ⟨d, ?_⟩
    rw [find?, components_alter_cons, OrderedMap.get?_alter, if_pos rfl]
    exact hd

theorem isUsed_alter_addInstance (use : Instance) (path : List String) (c : Component) :
    IsUsed (alter (addInstance use) path c) := by
  obtain ⟨d, hd⟩ := find?_alter_self (addInstance use) path c
  refine ⟨path, addInstance use d, hd, ?_⟩
  simp [addInstance]

/-- Every component on the way of a new use is proper afterwards, also one that was just created. -/
theorem proper_alter_addInstance (use : Instance) (path : List String) {c : Component}
    (h : c = {} ∨ c.Proper) : Proper (alter (addInstance use) path c) := by
  have hi : c.instances? ≠ some [] := by
    rcases h with rfl | h
    · simp
    · exact h.instances
  have hc : c.components? ≠ some [] := by
    rcases h with rfl | h
    · simp
    · exact h.components
  refine ⟨?_, ?_, isUsed_alter_addInstance use path c⟩
  · cases path with
    | nil => simp [alter, addInstance]
    | cons s path => exact hi
  · cases path with
    | nil => exact hc
    | cons s path => exact fun h => OrderedMap.alter_ne_nil _ _ _ (Option.some.inj h)

end Component

namespace Report

theorem Throughout.nil {P : Report → Prop} (h : P []) : Throughout P [] := .intro h (by simp)

/-- A change along a path keeps what it keeps at each level on its way. -/
theorem Throughout.alter {P : Report → Prop} {f : Component → Component} {path : List String}
    (hnil : P []) (hlevel : ∀ s ∈ path, ∀ rest r, P r →
      P (OrderedMap.alter r s fun o => Component.alter f rest (o.getD {})))
    (hf : ∀ c, Throughout P c.components → Throughout P (f c).components) {c : Component}
    (hc : Throughout P c.components) : Throughout P (Component.alter f path c).components := by
  induction path generalizing c with
  | nil => exact hf c hc
  | cons s path ih =>
    obtain ⟨here, below⟩ := hc
    have htail := @ih fun t ht => hlevel t (List.mem_cons_of_mem s ht)
    refine .intro (hlevel s List.mem_cons_self path _ here) ?_
    intro e he
    rcases OrderedMap.mem_alter he with he | rfl | ⟨d, hd, rfl⟩
    · exact below e he
    -- a component that was just created has nothing below it
    · exact htail (Throughout.nil hnil)
    · exact htail (below (s, d) hd)

theorem Distinct.nil : Distinct [] := Throughout.nil List.nodup_nil

theorem Each.nil {P : String → Component → Prop} : Each P [] := Throughout.nil (by simp)

theorem Distinct.alter {f : Component → Component}
    (hf : ∀ c, Distinct c.components → Distinct (f c).components) (path : List String)
    {c : Component} (hc : Distinct c.components) :
    Distinct (Component.alter f path c).components := by
  refine Throughout.alter (by simp) ?_ hf hc
  intro s _ rest level h
  exact OrderedMap.nodup_keys_alter h s _

/-- A change along a path keeps a property that every component on the path keeps or, being new,
comes to have. -/
theorem Each.alter {P : String → Component → Prop} {f : Component → Component} {path : List String}
    (hpath : ∀ key ∈ path, ∀ rest c, c = {} ∨ P key c → P key (Component.alter f rest c))
    (hf : ∀ c, Each P c.components → Each P (f c).components) {c : Component}
    (hc : Each P c.components) : Each P (Component.alter f path c).components := by
  refine Throughout.alter (by simp) ?_ hf hc
  intro s hs rest level h e he
  rcases OrderedMap.mem_alter he with he | rfl | ⟨d, hd, rfl⟩
  · exact h e he
  · exact hpath s hs rest {} (Or.inl rfl)
  · exact hpath s hs rest d (Or.inr (h (s, d) hd))

/-- The uses recorded at the end of a path. -/
def instancesAt (r : Report) (path : List String) : List Instance :=
  Component.instancesAt path { components? := some r }

@[simp] theorem instancesAt_empty (path : List String) : instancesAt [] path = [] := by
  cases path <;> rfl

theorem instancesAt_alter {f : Component → Component} {us : List Instance}
    (hc : ∀ c, (f c).components = c.components) (hi : ∀ c, (f c).instances = c.instances ++ us)
    (r : Report) (name : String) (path : List String) : (r.alter name f).instancesAt path =
      r.instancesAt path ++ if segments name = path then us else [] := by
  have h := Component.instancesAt_alter hc hi (segments name) path ⟨none, some r⟩
  rw [instancesAt, instancesAt, ← h, alter]
  cases hs : segments name with
  | nil => exact absurd hs (segments_ne_nil name)
  | cons s rest => rfl

/-- Adding a use keeps components proper and dots out of the keys. -/
theorem each_proper_add {r : Report} (h : r.Each fun key c => '.' ∉ key.toList ∧ c.Proper)
    (name : String) (use : Instance) :
    (r.add name use).Each fun key c => '.' ∉ key.toList ∧ c.Proper := by
  have hroot : Each (fun key c => '.' ∉ key.toList ∧ c.Proper)
      (Component.components ⟨none, some r⟩) := h
  rw [add, alter]
  refine Each.alter ?_ ?_ hroot
  · intro key hkey rest c hc
    exact ⟨dot_not_mem_of_mem_segments hkey,
      Component.proper_alter_addInstance use rest (hc.imp_right And.right)⟩
  · intro c hc
    exact hc

end Report

end MarkupCensus
