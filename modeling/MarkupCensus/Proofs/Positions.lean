import MarkupCensus.Proofs.Merge

namespace MarkupCensus

/-- A path that a qualified name can spell without loss. -/
def IsPath (path : List String) : Prop := ∀ s ∈ path, s ≠ "" ∧ '.' ∉ s.toList

namespace IsPath

theorem nil : IsPath [] := by simp [IsPath]

theorem append {p q : List String} (hp : IsPath p) (hq : IsPath q) : IsPath (p ++ q) := by
  intro s hs
  exact (List.mem_append.1 hs).elim (hp s) (hq s)

theorem segments_eq {path : List String} (h : IsPath path) (hne : path ≠ []) :
    segments (".".intercalate path) = path :=
  segments_intercalate hne fun s hs => (h s hs).2

/-- A component below a path is named by the longer path. -/
theorem qualify_eq {path : List String} (h : IsPath path) (key : String) :
    qualify (".".intercalate path) key = ".".intercalate (path ++ [key]) := by
  cases path with
  | nil =>
    have hempty : (".".intercalate []).isEmpty = true := rfl
    rw [qualify, hempty, List.nil_append, String.intercalate_singleton]
    rfl
  | cons s path =>
    have hne : ".".intercalate (s :: path) ≠ "" := by
      intro he
      have hs := h.segments_eq (List.cons_ne_nil s path)
      rw [he] at hs
      have hempty : segments "" = [""] := rfl
      rw [hempty, List.cons.injEq] at hs
      exact (h s List.mem_cons_self).1 hs.1.symm
    have hisEmpty : (".".intercalate (s :: path)).isEmpty = false := by simpa using hne
    rw [qualify, hisEmpty, String.intercalate_append_of_ne_nil (List.cons_ne_nil s path) (by simp),
      String.intercalate_singleton]
    rfl

end IsPath

/-- The keys of one level are distinct, and names are spelled from them without loss. -/
def WellKeyed (level : Report) : Prop :=
  (OrderedMap.keys level).Nodup ∧ IsPath (OrderedMap.keys level)

theorem WellKeyed.nil : WellKeyed [] := ⟨List.nodup_nil, IsPath.nil⟩

namespace Component

theorem find?_of_ne_nil {path : List String} (h : path ≠ []) (c : Component) :
    find? path c = find? path { components? := some c.components } := by
  cases path with
  | nil => exact absurd rfl h
  | cons s path => rfl

/-- Nothing is created on a way that leads to a component. -/
theorem alter_id_of_find? {path : List String} {c d : Component} (h : find? path c = some d) :
    alter id path c = c := by
  induction path generalizing c with
  | nil => rfl
  | cons s path ih =>
    obtain ⟨e, he, hd⟩ := Option.bind_eq_some_iff.1 h
    obtain ⟨uses, below⟩ := c
    cases below with
    | none => simp at he
    | some level =>
      have hlevel : OrderedMap.alter level s (fun o => alter id path (o.getD {})) = level :=
        OrderedMap.alter_eq_self he (ih hd)
      rw [alter]
      exact congrArg (fun cs => Component.mk uses (some cs)) hlevel

end Component

namespace Report

/-- The component at the end of a path. -/
def findAt? (r : Report) (path : List String) : Option Component :=
  Component.find? path { components? := some r }

/-- The keys below the component at the end of a path, in order; at the empty path those at the
top. -/
def keysAt (r : Report) (path : List String) : List String :=
  (((r.findAt? path).map Component.components).getD []).keys

theorem findAt?_cons_eq_some_iff {r : Report} (h : WellKeyed r) {s : String} {path : List String}
    {c : Component} : r.findAt? (s :: path) = some c ↔
      ∃ d, (s, d) ∈ r ∧ Component.find? path d = some c := by
  simp only [findAt?, Component.find?, Component.components_mk, Option.getD_some,
    Option.bind_eq_some_iff, OrderedMap.get?_eq_some_iff h.1]

theorem keysAt_cons {r : Report} (h : WellKeyed r) {s : String} {d : Component} (hd : (s, d) ∈ r)
    (path : List String) : r.keysAt (s :: path) = keysAt d.components path := by
  have hget : OrderedMap.get? r s = some d := (OrderedMap.get?_eq_some_iff h.1).2 hd
  have hfind : r.findAt? (s :: path) = Component.find? path d := by
    simp [findAt?, Component.find?, hget]
  rw [keysAt, hfind]
  cases path with
  | nil => rfl
  | cons t path => rfl

theorem isPath_of_findAt? {r : Report} (h : r.Throughout WellKeyed) {path : List String}
    {c : Component} (hc : r.findAt? path = some c) : IsPath path := by
  induction path generalizing r with
  | nil => exact IsPath.nil
  | cons s path ih =>
    obtain ⟨here, below⟩ := h
    obtain ⟨d, hd, hc⟩ := (findAt?_cons_eq_some_iff here).1 hc
    have hs : IsPath [s] := by
      simpa [IsPath] using here.2 s (List.mem_map.2 ⟨(s, d), hd, rfl⟩)
    cases path with
    | nil => exact hs
    | cons t path =>
      rw [Component.find?_of_ne_nil (List.cons_ne_nil t path)] at hc
      exact hs.append (ih (below (s, d) hd) hc)

theorem nodup_keysAt {r : Report} (h : r.Throughout WellKeyed) (path : List String) :
    (r.keysAt path).Nodup := by
  induction path generalizing r with
  | nil =>
    obtain ⟨here, -⟩ := h
    exact here.1
  | cons s path ih =>
    obtain ⟨here, below⟩ := h
    cases hget : OrderedMap.get? r s with
    | none => simp [keysAt, findAt?, Component.find?, hget]
    | some d =>
      have hd : (s, d) ∈ r := (OrderedMap.get?_eq_some_iff here.1).1 hget
      rw [keysAt_cons here hd]
      exact ih (below (s, d) hd)

end Report

mutual

/-- A component and all below it with the paths that lead to them, in pre-order. -/
def Component.positions : Component → List (List String × Component)
  | c@⟨_, below⟩ =>
    ([], c) :: match below with
      | none => []
      | some cs => Report.positions cs

/-- The components of a report with the paths that lead to them, in pre-order. -/
def Report.positions : List (String × Component) → List (List String × Component)
  | [] => []
  | (key, c) :: rest => c.positions.map (fun e => (key :: e.1, e.2)) ++ Report.positions rest

end

theorem Component.positions_eq (c : Component) :
    c.positions = ([], c) :: Report.positions c.components := by
  obtain ⟨uses, below⟩ := c
  cases below <;> rfl

theorem Component.iterate_eq (name : String) (c : Component) :
    c.iterate name = (name, c) :: Report.iterate name c.components := by
  obtain ⟨uses, below⟩ := c
  cases below <;> rfl

namespace Report

theorem positions_eq_flatMap (r : Report) : positions r = r.flatMap fun e =>
    ([e.1], e.2) :: (positions e.2.components).map fun d => (e.1 :: d.1, d.2) := by
  induction r with
  | nil => rfl
  | cons e r ih => rw [positions, ih, Component.positions_eq, List.flatMap_cons, List.map_cons]

theorem iterate_eq_flatMap (above : String) (r : Report) : iterate above r = r.flatMap fun e =>
    (qualify above e.1, e.2) :: iterate (qualify above e.1) e.2.components := by
  induction r with
  | nil => rfl
  | cons e r ih => rw [iterate, ih, Component.iterate_eq, List.flatMap_cons]

/-- Each component is listed under the name that joins its path by dots. -/
theorem iterate_eq_map_positions {r : Report} (h : r.Throughout WellKeyed) {p : List String}
    (hp : IsPath p) : iterate (".".intercalate p) r =
      (positions r).map fun e => (".".intercalate (p ++ e.1), e.2) := by
  induction h generalizing p with
  | @intro r here below ih =>
    rw [iterate_eq_flatMap, positions_eq_flatMap, List.map_flatMap]
    refine List.flatMap_congr ?_
    intro d hd
    have hkey : IsPath (p ++ [d.1]) :=
      hp.append (by simpa [IsPath] using here.2 d.1 (List.mem_map.2 ⟨d, hd, rfl⟩))
    rw [hp.qualify_eq, ih d hd hkey, List.map_cons, List.map_map]
    simp

theorem ne_nil_of_mem_positions {r : Report} {e : List String × Component}
    (h : e ∈ positions r) : e.1 ≠ [] := by
  rw [positions_eq_flatMap] at h
  obtain ⟨d, -, he⟩ := List.mem_flatMap.1 h
  rcases List.mem_cons.1 he with rfl | he
  · exact List.cons_ne_nil _ _
  · obtain ⟨e', -, rfl⟩ := List.mem_map.1 he
    exact List.cons_ne_nil _ _

/-- The positions are the paths at whose end there is a component. -/
theorem mem_positions_iff {r : Report} (h : r.Throughout WellKeyed) {q : List String}
    {c : Component} : (q, c) ∈ positions r ↔ q ≠ [] ∧ r.findAt? q = some c := by
  induction h generalizing q c with
  | @intro r here below ih =>
    rw [positions_eq_flatMap, List.mem_flatMap]
    constructor
    · rintro ⟨⟨key, d⟩, hd, he⟩
      rcases List.mem_cons.1 he with he | he
      · obtain ⟨rfl, rfl⟩ := Prod.mk.inj he
        exact ⟨by simp, (findAt?_cons_eq_some_iff here).2 ⟨c, hd, rfl⟩⟩
      · obtain ⟨⟨q', c'⟩, he', heq⟩ := List.mem_map.1 he
        obtain ⟨rfl, rfl⟩ := Prod.mk.inj heq
        obtain ⟨hq, hc⟩ := (ih (key, d) hd).1 he'
        rw [findAt?, ← Component.find?_of_ne_nil hq] at hc
        exact ⟨by simp, (findAt?_cons_eq_some_iff here).2 ⟨d, hd, hc⟩⟩
    · rintro ⟨hq, hc⟩
      obtain ⟨key, q, rfl⟩ := List.exists_cons_of_ne_nil hq
      obtain ⟨d, hd, hc⟩ := (findAt?_cons_eq_some_iff here).1 hc
      refine ⟨(key, d), hd, ?_⟩
      by_cases hne : q = []
      · subst hne
        obtain rfl : d = c := Option.some.inj hc
        exact List.mem_cons_self
      · rw [Component.find?_of_ne_nil hne] at hc
        exact List.mem_cons_of_mem _ (List.mem_map.2 ⟨(q, c), (ih (key, d) hd).2 ⟨hne, hc⟩, rfl⟩)

/-- A path comes before another in pre-order: what is below a path comes after it, and where two
paths part, the order of the keys decides. -/
inductive Precedes (r : Report) : List String → List String → Prop
  | above (path : List String) {rest : List String} (h : rest ≠ []) :
      Precedes r path (path ++ rest)
  | beside (path : List String) {a b : String} (h : [a, b].Sublist (r.keysAt path))
      (p q : List String) : Precedes r (path ++ a :: p) (path ++ b :: q)

theorem Precedes.below {r : Report} (h : WellKeyed r) {key : String} {d : Component}
    (hd : (key, d) ∈ r) {p q : List String} (hpq : Precedes d.components p q) :
    Precedes r (key :: p) (key :: q) := by
  cases hpq with
  | above _ hrest => exact .above (key :: p) hrest
  | beside path hkeys p q =>
    rw [← keysAt_cons h hd] at hkeys
    exact .beside (key :: path) hkeys p q

theorem Precedes.ne {r : Report} (h : r.Throughout WellKeyed) {p q : List String}
    (hpq : Precedes r p q) : p ≠ q := by
  cases hpq with
  | above path hrest =>
    intro he
    exact hrest (by simpa using he)
  | beside path hkeys p q =>
    intro he
    -- one key would have to stand before itself
    obtain ⟨rfl, -⟩ : _ ∧ p = q := by simpa using he
    simpa using (nodup_keysAt h path).sublist hkeys

theorem positions_ordered {r : Report} (h : r.Throughout WellKeyed) :
    ((positions r).map Prod.fst).Pairwise r.Precedes := by
  induction h with
  | @intro r here below ih =>
    rw [positions_eq_flatMap, List.map_flatMap, List.pairwise_flatMap]
    constructor
    · rintro ⟨key, d⟩ hd
      rw [List.map_cons, List.map_map, List.pairwise_cons]
      constructor
      · intro y hy
        obtain ⟨e, he, rfl⟩ := List.mem_map.1 hy
        exact .above [key] (ne_nil_of_mem_positions he)
      · have hlift := (List.pairwise_map.1 (ih (key, d) hd)).imp (Precedes.below here hd)
        exact List.pairwise_map.2 hlift
    · -- everything at and below a key starts with the key
      have hstart : ∀ (e : String × Component), ∀ path ∈ (([e.1], e.2) ::
          (positions e.2.components).map fun d => (e.1 :: d.1, d.2)).map Prod.fst,
          ∃ q, path = e.1 :: q := by
        intro e path hpath
        simp only [List.map_cons, List.map_map, List.mem_cons, List.mem_map] at hpath
        rcases hpath with rfl | ⟨d, -, rfl⟩
        · exact ⟨[], rfl⟩
        · exact ⟨d.1, rfl⟩
      refine List.pairwise_iff_forall_sublist.2 ?_
      intro e e' hee' x hx y hy
      obtain ⟨p, rfl⟩ := hstart e x hx
      obtain ⟨q, rfl⟩ := hstart e' y hy
      exact .beside [] (hee'.map Prod.fst) p q

theorem nodup_positions {r : Report} (h : r.Throughout WellKeyed) :
    ((positions r).map Prod.fst).Nodup :=
  (positions_ordered h).imp (Precedes.ne h)

theorem wellKeyed_apply {r : Report} (h : r.Throughout WellKeyed) {op : Operation}
    (hname : ∀ s ∈ segments op.name, s ≠ "") : (op.apply r).Throughout WellKeyed := by
  have hroot : Throughout WellKeyed (Component.components ⟨none, some r⟩) := h
  rw [op.apply_eq_alter, alter]
  refine Throughout.alter WellKeyed.nil ?_ ?_ hroot
  · intro s hs rest level hlevel
    refine ⟨OrderedMap.nodup_keys_alter hlevel.1 s _, ?_⟩
    intro key hkey
    rcases OrderedMap.mem_keys_alter.1 hkey with rfl | hkey
    · exact ⟨hname key hs, dot_not_mem_of_mem_segments hs⟩
    · exact hlevel.2 key hkey
  · intro c hc
    rw [op.components_change]
    exact hc

theorem wellKeyed_run {r : Report} (h : r.Throughout WellKeyed) {ops : List Operation}
    (hnames : ∀ op ∈ ops, ∀ s ∈ segments op.name, s ≠ "") : (run ops r).Throughout WellKeyed := by
  induction ops generalizing r with
  | nil => exact h
  | cons op ops ih =>
    exact ih (wellKeyed_apply h (hnames op List.mem_cons_self))
      fun op' hop => hnames op' (List.mem_cons_of_mem op hop)

/-- A report made from nothing by operations and merges, all names without empty segments. -/
inductive Reachable : Report → Prop
  | empty : Reachable []
  | apply {r : Report} (h : Reachable r) (op : Operation)
      (hname : ∀ s ∈ segments op.name, s ≠ "") : Reachable (op.apply r)
  | merge {t s : Report} (ht : Reachable t) (hs : Reachable s) : Reachable (merge t s)

/-- Merges can be replaced by the operations that made their source. -/
theorem Reachable.exists_run {r : Report} (h : Reachable r) :
    ∃ ops, (∀ op ∈ ops, ∀ s ∈ segments op.name, s ≠ "") ∧ r = run ops [] := by
  induction h with
  | empty => exact ⟨[], by simp, rfl⟩
  | apply h op hname ih =>
    obtain ⟨ops, hops, rfl⟩ := ih
    refine ⟨ops ++ [op], ?_, by simp [run]⟩
    intro op' hop'
    rcases List.mem_append.1 hop' with hop' | hop'
    · exact hops op' hop'
    · obtain rfl := List.mem_singleton.1 hop'
      exact hname
  | merge ht hs iht ihs =>
    obtain ⟨ops, hops, rfl⟩ := iht
    obtain ⟨ops', hops', rfl⟩ := ihs
    refine ⟨ops ++ ops', ?_, ?_⟩
    · intro op hop
      exact (List.mem_append.1 hop).elim (hops op) (hops' op)
    · rw [merge_run_of_distinct ops' Distinct.nil]
      simp [run, Report.merge]

theorem Reachable.wellKeyed {r : Report} (h : Reachable r) : r.Throughout WellKeyed := by
  obtain ⟨ops, hops, rfl⟩ := h.exists_run
  exact wellKeyed_run (Throughout.nil WellKeyed.nil) hops

section Listing

variable {r : Report} (h : r.Throughout WellKeyed)
include h

theorem iterate_eq_positions :
    iterate "" r = (positions r).map fun e => (".".intercalate e.1, e.2) :=
  iterate_eq_map_positions h IsPath.nil

theorem segments_of_mem_positions {e : List String × Component} (he : e ∈ positions r) :
    segments (".".intercalate e.1) = e.1 := by
  obtain ⟨hne, hc⟩ := (mem_positions_iff h).1 he
  exact (isPath_of_findAt? h hc).segments_eq hne

theorem segments_iterate :
    (iterate "" r).map (fun e => segments e.1) = (positions r).map Prod.fst := by
  rw [iterate_eq_positions h, List.map_map]
  exact List.map_congr_left fun e he => segments_of_mem_positions h he

theorem mem_iterate_iff {name : String} {c : Component} :
    (name, c) ∈ iterate "" r ↔ r.find? name = some c := by
  rw [iterate_eq_positions h, List.mem_map]
  constructor
  · rintro ⟨e, he, heq⟩
    obtain ⟨rfl, rfl⟩ := Prod.mk.inj heq
    obtain ⟨-, hc⟩ := (mem_positions_iff h).1 he
    rw [find?, segments_of_mem_positions h he]
    exact hc
  · intro hc
    refine ⟨(segments name, c), (mem_positions_iff h).2 ⟨segments_ne_nil name, hc⟩, ?_⟩
    rw [intercalate_segments]

/-- No two components go under one name. -/
theorem nodup_iterate : ((iterate "" r).map Prod.fst).Nodup := by
  -- names that spell different paths differ
  have hpaths : ((iterate "" r).map fun e => segments e.1).Nodup :=
    segments_iterate h ▸ nodup_positions h
  have hnames : (((iterate "" r).map Prod.fst).map segments).Nodup := by
    rw [List.map_map]
    exact hpaths
  exact hnames.of_map segments

end Listing

theorem ensure_of_find? {r : Report} {name : String} {c : Component}
    (h : r.find? name = some c) : r.ensure name = r := by
  rw [ensure, alter, Component.alter_id_of_find? h]
  rfl

/-- The listing of a report goes through all of its components: each stands under the name of its
path, once, after what is above it and what is beside it under an earlier key. Asking for the
component of a listed name gives the one listed, and changes nothing. -/
theorem iterate_lists_components {r : Report} (h : r.Reachable) :
    (∀ path c, path ≠ [] ∧ r.findAt? path = some c ↔
      ∃ name, (name, c) ∈ iterate "" r ∧ segments name = path) ∧
    ((iterate "" r).map fun e => segments e.1).Pairwise r.Precedes ∧
    ((iterate "" r).map Prod.fst).Nodup ∧
    ∀ name c, (name, c) ∈ iterate "" r →
      (r.ensure name).find? name = some c ∧ r.ensure name = r := by
  have hkeyed := h.wellKeyed
  refine ⟨?_, segments_iterate hkeyed ▸ positions_ordered hkeyed, nodup_iterate hkeyed, ?_⟩
  · intro path c
    constructor
    · rintro ⟨hne, hc⟩
      have hpath := (isPath_of_findAt? hkeyed hc).segments_eq hne
      refine ⟨".".intercalate path, (mem_iterate_iff hkeyed).2 ?_, hpath⟩
      rw [find?, hpath]
      exact hc
    · rintro ⟨name, hname, rfl⟩
      exact ⟨segments_ne_nil name, (mem_iterate_iff hkeyed).1 hname⟩
  · intro name c hname
    have hfind := (mem_iterate_iff hkeyed).1 hname
    have hensure : r.ensure name = r := ensure_of_find? hfind
    exact ⟨hensure.symm ▸ hfind, hensure⟩

end Report

/-- A report that was merged into another, with a name below one that the other has. -/
def Sample.merged : Report :=
  Report.merge (Report.run [.ensure "Menu.Item", .ensure "Box"] [])
    (Report.run [.ensure "Menu.Icon"] [])

theorem Sample.reachable_merged : Sample.merged.Reachable := by
  refine .merge (.apply (.apply .empty (.ensure "Menu.Item") ?_) (.ensure "Box") ?_)
    (.apply .empty (.ensure "Menu.Icon") ?_) <;> decide

namespace Report

theorem iterate_lists_components_merged :
    Sample.merged.Reachable ∧
    (iterate "" Sample.merged).map Prod.fst = ["Menu", "Menu.Item", "Menu.Icon", "Box"] ∧
    Sample.merged.Precedes ["Menu", "Item"] ["Box"] ∧
    Sample.merged.ensure "Menu.Icon" = Sample.merged := by
  obtain ⟨-, hordered, -, hfound⟩ := iterate_lists_components Sample.reachable_merged
  have hlist : iterate "" Sample.merged = [("Menu", ⟨none, some [("Item", {}), ("Icon", {})]⟩),
      ("Menu.Item", {}), ("Menu.Icon", {}), ("Box", {})] := by cbv
  have hpaths : (iterate "" Sample.merged).map (fun e => segments e.1) =
      [["Menu"], ["Menu", "Item"], ["Menu", "Icon"], ["Box"]] := by
    rw [hlist]
    cbv
  rw [hpaths] at hordered
  refine ⟨Sample.reachable_merged, by rw [hlist]; rfl, ?_, ?_⟩
  · exact List.pairwise_iff_forall_sublist.1 hordered (by decide)
  · exact (hfound "Menu.Icon" {} (by rw [hlist]; simp)).2

end Report

end MarkupCensus
