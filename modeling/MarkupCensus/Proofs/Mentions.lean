import MarkupCensus.Proofs.Positions

namespace MarkupCensus

/-- The segment that a qualified name goes on with after a path, if it goes through the path and
beyond. -/
def nextKey? (path : List String) (name : String) : Option String :=
  if path <+: segments name then (segments name)[path.length]? else none

theorem nextKey?_of_append {path rest : List String} {name : String}
    (h : segments name = path ++ rest) : nextKey? path name = rest.head? := by
  have hpath : path <+: segments name := ⟨rest, h.symm⟩
  rw [nextKey?, if_pos hpath, h, List.getElem?_append_right (Nat.le_refl _), Nat.sub_self,
    List.head?_eq_getElem?]

theorem nextKey?_off_path {path : List String} {name : String}
    (h : ¬path <+: segments name) : nextKey? path name = none := if_neg h

namespace Component

variable {f : Component → Component}

theorem find?_empty_getD (path : List String) : (find? path {}).getD {} = {} := by
  cases path <;> rfl

/-- What stands on the way of a change is itself changed, along the rest of the way. -/
theorem find?_alter_append (p rest : List String) (c : Component) :
    find? p (alter f (p ++ rest) c) = some (alter f rest ((find? p c).getD {})) := by
  induction p generalizing c with
  | nil => rfl
  | cons s p ih =>
    have hstep : find? (s :: p) (alter f (s :: p ++ rest) c) =
        find? p (alter f (p ++ rest) ((OrderedMap.get? c.components s).getD {})) := by
      rw [List.cons_append, find?, components_alter_cons, OrderedMap.get?_alter, if_pos rfl]
      rfl
    rw [hstep, ih, find?]
    cases OrderedMap.get? c.components s with
    | none =>
      rw [Option.getD_none, find?_empty_getD]
      rfl
    | some d => rfl

/-- What does not stand on the way of a change is left as it is. -/
theorem find?_alter_off_path (hf : ∀ c, (f c).components = c.components) {p q : List String}
    (h : ¬p <+: q) (c : Component) : find? p (alter f q c) = find? p c := by
  obtain ⟨s, p, rfl⟩ := List.exists_cons_of_ne_nil (l := p) fun hp => h (hp ▸ List.nil_prefix)
  induction q generalizing s p c with
  | nil => rw [alter, find?, find?, hf]
  | cons t q ih =>
    rw [find?, find?, components_alter_cons, OrderedMap.get?_alter]
    by_cases hst : s = t
    · subst hst
      have hpq : ¬p <+: q := fun hpq => h (List.cons_prefix_cons.2 ⟨rfl, hpq⟩)
      obtain ⟨s', p, rfl⟩ := List.exists_cons_of_ne_nil (l := p) fun hp => hpq (hp ▸ List.nil_prefix)
      rw [if_pos rfl, Option.bind_some, ih _ s' p hpq]
      cases OrderedMap.get? c.components s <;> rfl
    · rw [if_neg hst]

end Component

namespace Report

namespace Operation

/-- A report changes as the components of a nameless root do. -/
theorem findAt?_apply (op : Operation) (r : Report) (path : List String) :
    (op.apply r).findAt? path = Component.find? path
      (Component.alter op.change (segments op.name) { components? := some r }) := by
  obtain ⟨s, rest, hs⟩ := List.exists_cons_of_ne_nil (segments_ne_nil op.name)
  rw [op.apply_eq_alter, findAt?, alter, hs]
  rfl

theorem findAt?_apply_of_append (op : Operation) (r : Report) {path rest : List String}
    (h : segments op.name = path ++ rest) : (op.apply r).findAt? path =
      some (Component.alter op.change rest ((r.findAt? path).getD {})) := by
  rw [op.findAt?_apply, h, Component.find?_alter_append, findAt?]

theorem findAt?_apply_off_path (op : Operation) (r : Report) {path : List String}
    (h : ¬path <+: segments op.name) : (op.apply r).findAt? path = r.findAt? path := by
  rw [op.findAt?_apply, Component.find?_alter_off_path op.components_change h, findAt?]

/-- The way to a name is extended by the segments that are not there yet, and nothing else is. -/
theorem keysAt_apply (op : Operation) (r : Report) (path : List String) :
    (op.apply r).keysAt path = match nextKey? path op.name with
      | none => r.keysAt path
      | some key => if key ∈ r.keysAt path then r.keysAt path else r.keysAt path ++ [key] := by
  by_cases h : path <+: segments op.name
  · obtain ⟨rest, hrest⟩ := h
    have hkeys : r.keysAt path = (((r.findAt? path).getD {}).components).keys := by
      rw [keysAt]
      cases r.findAt? path <;> rfl
    rw [nextKey?_of_append hrest.symm, hkeys, keysAt, op.findAt?_apply_of_append r hrest.symm,
      Option.map_some, Option.getD_some]
    cases rest with
    | nil => rw [Component.alter, components_change, List.head?_nil]
    | cons key rest =>
      rw [Component.components_alter_cons, OrderedMap.keys_alter, List.head?_cons]
  · rw [nextKey?_off_path h, keysAt, keysAt, op.findAt?_apply_off_path r h]

/-- A component of another name keeps its uses. It keeps what is below it as well, unless it is on
the way to the name of the operation: then the next key on the way comes last if it is new. -/
theorem findAt?_apply_of_ne (op : Operation) (r : Report) {path : List String} {c : Component}
    (hne : path ≠ segments op.name) (hc : r.findAt? path = some c) :
    ∃ d, (op.apply r).findAt? path = some d ∧ d.instances? = c.instances? ∧
      match nextKey? path op.name with
      | none => d.components? = c.components?
      | some key => (∀ k ≠ key, OrderedMap.get? d.components k = OrderedMap.get? c.components k) ∧
          OrderedMap.keys d.components = if key ∈ OrderedMap.keys c.components
            then OrderedMap.keys c.components else OrderedMap.keys c.components ++ [key] := by
  by_cases h : path <+: segments op.name
  · obtain ⟨rest, hrest⟩ := h
    have hrestne : rest ≠ [] := by
      rintro rfl
      exact hne (by simpa using hrest)
    obtain ⟨key, rest, rfl⟩ := List.exists_cons_of_ne_nil hrestne
    refine ⟨Component.alter op.change (key :: rest) c, ?_, rfl, ?_⟩
    · rw [op.findAt?_apply_of_append r hrest.symm, hc, Option.getD_some]
    · rw [nextKey?_of_append hrest.symm, List.head?_cons, Component.components_alter_cons]
      refine ⟨?_, OrderedMap.keys_alter _ _ _⟩
      intro k hk
      rw [OrderedMap.get?_alter, if_neg hk]
  · refine ⟨c, ?_, rfl, ?_⟩
    · rw [op.findAt?_apply_off_path r h, hc]
    · rw [nextKey?_off_path h]

end Operation

/-- The keys below a path are the segments that names go on with there, in the order in which they
were first mentioned. -/
theorem keysAt_run (ops : List Operation) (path : List String) : (run ops []).keysAt path =
    (ops.filterMap fun op => nextKey? path op.name).eraseDups := by
  induction ops using List.reverseRecOn with
  | nil => cases path <;> rfl
  | append_singleton ops op ih =>
    have hrun : run (ops ++ [op]) [] = op.apply (run ops []) := by simp [run]
    rw [hrun, op.keysAt_apply, ih, List.filterMap_append]
    cases hkey : nextKey? path op.name with
    | none => simp [hkey]
    | some key => simp [hkey, OrderedMap.eraseDups_concat]

/-- What any history of a report leaves. The uses of a name are those added under it, in order, and
the keys below a path are the segments that the mentioned names go on with, in the order of their
first mention. One more operation leaves all components of other names as they are, but for the
next key on the way to its own name. -/
theorem run_keeps_mentions (ops : List Operation) :
    (∀ name, (run ops []).instancesAt (segments name) =
      (ops.filter fun op => op.name = name).filterMap Operation.use?) ∧
    (∀ path, (run ops []).keysAt path =
      (ops.filterMap fun op => nextKey? path op.name).eraseDups) ∧
    ∀ (op : Operation) path c, path ≠ segments op.name → (run ops []).findAt? path = some c →
      ∃ d, (op.apply (run ops [])).findAt? path = some d ∧ d.instances? = c.instances? ∧
        match nextKey? path op.name with
        | none => d.components? = c.components?
        | some key => (∀ k ≠ key, OrderedMap.get? d.components k = OrderedMap.get? c.components k) ∧
            OrderedMap.keys d.components = if key ∈ OrderedMap.keys c.components
              then OrderedMap.keys c.components else OrderedMap.keys c.components ++ [key] := by
  refine ⟨?_, keysAt_run ops, ?_⟩
  · intro name
    rw [instancesAt_run, instancesAt_empty, List.nil_append]
    simp only [segments_inj]
  · intro op path c hne hc
    exact op.findAt?_apply_of_ne (run ops []) hne hc

end Report

/-- A component, a use below it, and a name that has only empty segments. -/
def Sample.mentions : List Report.Operation :=
  [.ensure "Menu", .add "Menu.Item" { location := ⟨"menu.jsx", 1, 1⟩ }, .ensure "."]

namespace Report

theorem run_keeps_mentions_menu :
    (run Sample.mentions []).instancesAt ["Menu", "Item"] =
      [{ location := ⟨"menu.jsx", 1, 1⟩ }] ∧
    (run Sample.mentions []).keysAt [] = ["Menu", ""] ∧
    (["Menu"] ≠ segments "Menu.Icon" ∧ ∃ c, (run Sample.mentions []).findAt? ["Menu"] = some c ∧
      OrderedMap.keys c.components = ["Item"]) ∧
    ∃ d, (Operation.apply (run Sample.mentions []) (.ensure "Menu.Icon")).findAt? ["Menu"] = some d ∧
      OrderedMap.keys d.components = ["Item", "Icon"] := by
  obtain ⟨huses, hkeys, hothers⟩ := run_keeps_mentions Sample.mentions
  have hne : ["Menu"] ≠ segments "Menu.Icon" := by decide
  obtain ⟨c, hc, hck⟩ : ∃ c, (run Sample.mentions []).findAt? ["Menu"] = some c ∧
      OrderedMap.keys c.components = ["Item"] := ⟨_, rfl, rfl⟩
  obtain ⟨d, hd, -, hdk⟩ := hothers (.ensure "Menu.Icon") ["Menu"] c hne hc
  refine ⟨huses "Menu.Item", (hkeys []).trans (by decide), ⟨hne, c, hc, hck⟩, d, hd, ?_⟩
  have hnext : nextKey? ["Menu"] "Menu.Icon" = some "Icon" := by decide
  simp only [Operation.name, hnext, hck] at hdk
  exact hdk.2

/-- Not every component of another name keeps the keys below it: one on the way to a new name gets a
new key. -/
theorem way_to_new_name_extends_keys :
    ¬∀ (ops : List Operation) (op : Operation) (path : List String) (c : Component),
      path ≠ segments op.name → (run ops []).findAt? path = some c →
      ∃ d, (op.apply (run ops [])).findAt? path = some d ∧ d.instances = c.instances ∧
        OrderedMap.keys d.components = OrderedMap.keys c.components := by
  intro hall
  obtain ⟨d, hd, -, hkeys⟩ := hall [.ensure "A"] (.ensure "A.B") ["A"] {} (by decide) rfl
  have hafter : (Operation.apply (run [.ensure "A"] []) (.ensure "A.B")).keysAt ["A"] = ["B"] := rfl
  rw [keysAt, hd, Option.map_some, Option.getD_some, hkeys] at hafter
  cases hafter

end Report

end MarkupCensus
