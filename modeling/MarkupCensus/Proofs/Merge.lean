import MarkupCensus.Proofs.ReportTree

namespace MarkupCensus

/-- The two operations that a report grows by. -/
inductive Report.Operation where
  | ensure (name : String)
  | add (name : String) (use : Instance)

def Report.Operation.apply (r : Report) : Report.Operation → Report
  | .ensure name => r.ensure name
  | .add name use => r.add name use

/-- Performs operations one after another. -/
def Report.run (ops : List Report.Operation) (r : Report) : Report :=
  ops.foldl Report.Operation.apply r

namespace Component

/-- An absent field and an empty one merge alike. -/
theorem merge_eq (t c : Component) : merge t c =
    ⟨bif c.instances.isEmpty then t.instances? else some (t.instances ++ c.instances),
      bif c.components.isEmpty then t.components?
        else some (Report.merge t.components c.components)⟩ := by
  obtain ⟨uses, below⟩ := c
  cases below <;> simp [merge, cond_eq_ite]

@[simp] theorem merge_empty (t : Component) : merge t {} = t := by
  cases t
  rw [merge_eq]
  rfl

theorem instances_merge (t c : Component) : (merge t c).instances = t.instances ++ c.instances := by
  rw [merge_eq, instances_mk]
  cases h : c.instances with
  | nil => simp [instances]
  | cons use uses => simp

theorem components_merge (t c : Component) :
    (merge t c).components = Report.merge t.components c.components := by
  rw [merge_eq, components_mk]
  cases h : c.components with
  | nil => rfl
  | cons e es => rfl

end Component

namespace Report

/-- A change at a key that the target has and the source lacks commutes with the merge. -/
theorem merge_alter_target {t s : Report} {k : String} (g : Option Component → Component)
    (ht : k ∈ OrderedMap.keys t) (hs : k ∉ OrderedMap.keys s) :
    merge (OrderedMap.alter t k g) s = OrderedMap.alter (merge t s) k g := by
  induction s generalizing t with
  | nil => rfl
  | cons e s ih =>
    simp only [OrderedMap.keys_cons, List.mem_cons, not_or] at hs
    simp only [merge]
    -- the source may bring a new key here, so it matters that the changed one is no new key
    rw [OrderedMap.alter_comm hs.1 ht]
    exact ih (OrderedMap.mem_keys_alter.2 (Or.inr ht)) hs.2

/-- A change at a key of the source carries over to the merged report if it carries over to the
merged component. -/
theorem merge_alter_source {s : Report} {k : String} {h : Component → Component}
    (hs : (OrderedMap.keys s).Nodup) (hnew : ∀ t, Component.merge t (h {}) = h t)
    (hold : ∀ c, (k, c) ∈ s → ∀ t, Component.merge t (h c) = h (Component.merge t c)) (t : Report) :
    merge t (OrderedMap.alter s k fun o => h (o.getD {})) =
      OrderedMap.alter (merge t s) k fun o => h (o.getD {}) := by
  induction s generalizing t with
  | nil =>
    simp only [OrderedMap.alter, merge, Option.getD_none]
    congr 1
    funext o
    exact hnew (o.getD {})
  | cons e s ih =>
    obtain ⟨k', c⟩ := e
    rw [OrderedMap.keys_cons, List.nodup_cons] at hs
    by_cases hk : k' = k
    · subst hk
      simp only [OrderedMap.alter, if_true, merge, Option.getD_some]
      -- the key is not met again in the source, so the change can be moved past the rest of it
      rw [← merge_alter_target _ (OrderedMap.mem_keys_alter.2 (Or.inl rfl)) hs.1,
        OrderedMap.alter_alter_self]
      congr 2
      funext o
      exact hold c List.mem_cons_self (o.getD {})
    · simp only [OrderedMap.alter, if_neg hk, merge]
      exact ih hs.2 (fun c hc => hold c (List.mem_cons_of_mem _ hc)) _

end Report

/-- A change that commutes with merging at the end of a path commutes with it at its start. -/
theorem Component.merge_alter {f : Component → Component}
    (hf : ∀ t c, Component.merge t (f c) = f (Component.merge t c)) (path : List String)
    (t c : Component) (hc : Report.Distinct c.components) :
    Component.merge t (Component.alter f path c) = Component.alter f path (Component.merge t c) := by
  induction path generalizing t c with
  | nil => exact hf t c
  | cons s path ih =>
    obtain ⟨nodup, below⟩ := hc
    -- the rest of the path may lead through a component that the source does not have yet
    have hnew : ∀ t, Component.merge t (Component.alter f path {}) = Component.alter f path t := by
      intro t
      rw [ih t {} Report.Distinct.nil, Component.merge_empty]
    have hm := Report.merge_alter_source nodup hnew
      (fun d hd t => ih t d (below (s, d) hd)) t.components
    have hne : (Component.alter f (s :: path) c).components.isEmpty = false :=
      List.isEmpty_eq_false_iff.2 (OrderedMap.alter_ne_nil _ _ _)
    rw [Component.merge_eq, hne, Component.components_alter_cons, hm, ← Component.components_merge,
      Component.merge_eq t c]
    rfl

namespace Report

namespace Operation

def name : Operation → String
  | .ensure name => name
  | .add name _ => name

/-- What an operation does to the component of its name. -/
def change : Operation → Component → Component
  | .ensure _ => id
  | .add _ use => Component.addInstance use

/-- The use that an operation adds. -/
def use? : Operation → Option Instance
  | .ensure _ => none
  | .add _ use => some use

theorem components_change (op : Operation) (c : Component) :
    (op.change c).components = c.components := by
  cases op <;> rfl

theorem instances_change (op : Operation) (c : Component) :
    (op.change c).instances = c.instances ++ op.use?.toList := by
  cases op with
  | ensure name => exact (List.append_nil _).symm
  | add name use => rfl

theorem apply_eq_alter (op : Operation) (r : Report) : op.apply r = r.alter op.name op.change := by
  cases op <;> rfl

theorem merge_change (op : Operation) (t c : Component) :
    Component.merge t (op.change c) = op.change (Component.merge t c) := by
  cases op with
  | ensure name => rfl
  | add name use =>
    have hne : (c.instances ++ [use]).isEmpty = false := by simp
    have hi := Component.instances_merge t c
    rw [change, Component.addInstance, Component.addInstance, hi, Component.merge_eq,
      Component.merge_eq t c, Component.instances_mk, Option.getD_some, hne, ← List.append_assoc]
    rfl

theorem distinct_apply (op : Operation) {r : Report} (h : Distinct r) : Distinct (op.apply r) := by
  rw [apply_eq_alter]
  refine Distinct.alter ?_ (segments op.name) h
  intro c hc
  rw [components_change]
  exact hc

/-- An operation on the source may as well be performed on the merged report. -/
theorem merge_apply (op : Operation) {s : Report} (hs : Distinct s) (t : Report) :
    merge t (op.apply s) = op.apply (merge t s) := by
  -- a report changes as the components of a nameless root do
  have hroot : Component.merge ⟨none, some t⟩ ⟨none, some s⟩ = ⟨none, some (merge t s)⟩ := by
    rw [Component.merge_eq]
    cases s <;> rfl
  have h := congrArg Component.components
    (Component.merge_alter op.merge_change (segments op.name) ⟨none, some t⟩ ⟨none, some s⟩ hs)
  rw [Component.components_merge, hroot] at h
  rw [apply_eq_alter, apply_eq_alter]
  exact h

end Operation

theorem distinct_run (ops : List Operation) {r : Report} (h : Distinct r) :
    Distinct (run ops r) := by
  induction ops generalizing r with
  | nil => exact h
  | cons op ops ih => exact ih (op.distinct_apply h)

/-- Appends uses under their names, one after another. -/
def addAll (r : Report) (adds : List (String × Instance)) : Report :=
  run (adds.map fun a => .add a.1 a.2) r

/-- The uses at a path are those that were there and those that operations on its name add. -/
theorem instancesAt_run (r : Report) (ops : List Operation) (path : List String) :
    (run ops r).instancesAt path = r.instancesAt path ++
      (ops.filter fun op => segments op.name = path).filterMap Operation.use? := by
  induction ops generalizing r with
  | nil => simp [run]
  | cons op ops ih =>
    have hop : (op.apply r).instancesAt path =
        r.instancesAt path ++ if segments op.name = path then op.use?.toList else [] := by
      rw [op.apply_eq_alter]
      exact instancesAt_alter op.components_change op.instances_change r op.name path
    have hrun : run (op :: ops) r = run ops (op.apply r) := rfl
    rw [hrun, ih, hop, List.filter_cons]
    by_cases hp : segments op.name = path
    · cases hu : op.use? <;> simp [hp, hu]
    · simp [hp]

theorem instancesAt_addAll (r : Report) (adds : List (String × Instance)) (path : List String) :
    (r.addAll adds).instancesAt path =
      r.instancesAt path ++ (adds.filter fun a => segments a.1 = path).map Prod.snd := by
  rw [addAll, instancesAt_run, List.filter_map, List.filterMap_map, ← List.filterMap_eq_map]
  rfl

theorem merge_run_of_distinct (ops : List Operation) {s : Report} (hs : Distinct s) (t : Report) :
    merge t (run ops s) = run ops (merge t s) := by
  induction ops generalizing s with
  | nil => rfl
  | cons op ops ih =>
    have h := ih (op.distinct_apply hs)
    rw [op.merge_apply hs] at h
    exact h

/-- Merging a report that was grown from nothing is the same as growing the target directly. Nothing
is asked of the target. -/
theorem merge_run_empty (t : Report) (ops : List Operation) :
    merge t (run ops []) = run ops t :=
  merge_run_of_distinct ops Distinct.nil t

end Report

end MarkupCensus
