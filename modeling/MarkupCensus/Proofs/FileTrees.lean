import MarkupCensus.Proofs.Files

namespace MarkupCensus

namespace Entry

/-- The names in a directory differ, at every level. -/
inductive IsTree : Entry → Prop
  | file (bytes : List UInt8) : IsTree (.file bytes)
  | link (target : String) : IsTree (.link target)
  | directory {es : List (String × Entry)} (names : (OrderedMap.keys es).Nodup)
    (below : ∀ e ∈ es, IsTree e.2) : IsTree (.directory es)

/-- Trees that list the entries of their directories in different orders. -/
inductive Reordered : Entry → Entry → Prop
  | refl (e : Entry) : Reordered e e
  | here {es fs : List (String × Entry)} (h : es.Perm fs) :
    Reordered (.directory es) (.directory fs)
  | inside {before after : List (String × Entry)} {name : String} {e f : Entry}
    (h : Reordered e f) : Reordered (.directory (before ++ (name, e) :: after))
      (.directory (before ++ (name, f) :: after))
  | trans {e f g : Entry} (hef : Reordered e f) (hfg : Reordered f g) : Reordered e g

/-- What an entry is, without what is in it. -/
def bare : Entry → Entry
  | .directory _ => .directory []
  | e => e

/-- The same paths lead to the same things. -/
def Alike (e f : Entry) : Prop := ∀ parts, (at? parts e).map bare = (at? parts f).map bare

theorem isTree_directory {es : List (String × Entry)} :
    (directory es).IsTree ↔ (OrderedMap.keys es).Nodup ∧ ∀ e ∈ es, IsTree e.2 := by
  constructor
  · rintro (_ | _ | ⟨names, below⟩)
    exact ⟨names, below⟩
  · rintro ⟨names, below⟩
    exact .directory names below

section Leaves

mutual

theorem leaves_eq_map (above : List String) : ∀ e : Entry,
    leaves above e = (leaves [] e).map (above ++ ·)
  | .file _ => by simp [leaves]
  | .link _ => by simp [leaves]
  | .directory es => by rw [leaves, leaves, leavesOf_eq_map]

theorem leavesOf_eq_map (above : List String) : ∀ es : List (String × Entry),
    leavesOf above es = (leavesOf [] es).map (above ++ ·)
  | [] => rfl
  | (name, e) :: es => by
    rw [leavesOf, leavesOf, leaves_eq_map (above ++ [name]), leaves_eq_map ([] ++ [name]),
      leavesOf_eq_map above es, List.map_append, List.map_map]
    simp

end

theorem leavesOf_eq_flatMap (es : List (String × Entry)) :
    leavesOf [] es = es.flatMap fun e => (leaves [] e.2).map (e.1 :: ·) := by
  induction es with
  | nil => rfl
  | cons e es ih => rw [leavesOf, leaves_eq_map, ih, List.flatMap_cons]; rfl

variable {e : Entry}

theorem mem_leaves_iff (h : e.IsTree) {parts : List String} :
    parts ∈ leaves [] e ↔ ∃ x, at? parts e = some x ∧ x.isDirectoryEntry = false := by
  induction h generalizing parts with
  | file bytes => cases parts <;> simp [leaves, at?, entries, isDirectoryEntry, OrderedMap.get?]
  | link target => cases parts <;> simp [leaves, at?, entries, isDirectoryEntry, OrderedMap.get?]
  | @directory es names below ih =>
    rw [leaves, leavesOf_eq_flatMap, List.mem_flatMap]
    cases parts with
    | nil => simp [at?, isDirectoryEntry]
    | cons name parts =>
      constructor
      · rintro ⟨⟨key, e⟩, he, hparts⟩
        obtain ⟨q, hq, heq⟩ := List.mem_map.1 hparts
        obtain ⟨rfl, rfl⟩ := List.cons.inj heq
        obtain ⟨x, hx, hleaf⟩ := (ih _ he).1 hq
        refine ⟨x, ?_, hleaf⟩
        rw [at?_cons, entries, (OrderedMap.get?_eq_some_iff names).2 he, Option.bind_some, hx]
      · rintro ⟨x, hx, hleaf⟩
        rw [at?_cons, entries] at hx
        obtain ⟨e, he, hx⟩ := Option.bind_eq_some_iff.1 hx
        have hmem := (OrderedMap.get?_eq_some_iff names).1 he
        exact ⟨(name, e), hmem, List.mem_map.2 ⟨parts, (ih _ hmem).2 ⟨x, hx, hleaf⟩, rfl⟩⟩

theorem nodup_leaves (h : e.IsTree) : (leaves [] e).Nodup := by
  induction h with
  | file bytes => simp [leaves]
  | link target => simp [leaves]
  | @directory es names below ih =>
    rw [leaves, leavesOf_eq_flatMap, List.nodup_flatMap]
    constructor
    · intro e he
      exact (ih e he).map (List.cons_injective)
    · -- paths that start with different names differ
      refine (List.pairwise_map.1 names).imp ?_
      intro e f hne q hq hq'
      obtain ⟨p, -, rfl⟩ := List.mem_map.1 hq
      obtain ⟨p', -, heq⟩ := List.mem_map.1 hq'
      exact hne (List.cons.inj heq).1.symm

theorem IsTree.of_at? (h : e.IsTree) {parts : List String} {x : Entry} (hx : at? parts e = some x) :
    x.IsTree := by
  induction parts generalizing e with
  | nil => exact Option.some.inj hx ▸ h
  | cons name parts ih =>
    rw [at?_cons] at hx
    obtain ⟨c, hc, hbelow⟩ := Option.bind_eq_some_iff.1 hx
    cases h with
    | file bytes => cases hc
    | link target => cases hc
    | directory names below => exact ih (below _ ((OrderedMap.get?_eq_some_iff names).1 hc)) hbelow

end Leaves

section Alike

variable {e f x tree tree' : Entry}

/-- How directories list their entries has no part in what is found below them. -/
theorem Reordered.alike (h : Reordered e f) (ht : e.IsTree) : f.IsTree ∧ Alike e f := by
  induction h with
  | refl e => exact ⟨ht, fun _ => rfl⟩
  | @here es fs hperm =>
    obtain ⟨names, below⟩ := isTree_directory.1 ht
    have names' : (OrderedMap.keys fs).Nodup := (hperm.map Prod.fst).nodup_iff.1 names
    refine ⟨isTree_directory.2 ⟨names', fun e he => below e (hperm.mem_iff.2 he)⟩, ?_⟩
    intro parts
    cases parts with
    | nil => rfl
    | cons name parts => rw [at?_cons, at?_cons, entries, entries, OrderedMap.get?_perm names hperm]
  | @inside before after name e f _ ih =>
    obtain ⟨names, below⟩ := isTree_directory.1 ht
    obtain ⟨hf, halike⟩ := ih (below (name, e) (by simp))
    refine ⟨isTree_directory.2 ⟨by simpa [OrderedMap.keys] using names, ?_⟩, ?_⟩
    · intro d hd
      rcases List.mem_append.1 hd with hd | hd
      · exact below d (by simp [hd])
      · rcases List.mem_cons.1 hd with rfl | hd
        · exact hf
        · exact below d (by simp [hd])
    · intro parts
      cases parts with
      | nil => rfl
      | cons key parts =>
        simp only [at?_cons, entries, OrderedMap.get?, List.lookup_append, List.lookup_cons]
        cases before.lookup key with
        | some x => rfl
        | none =>
          cases key == name with
          | true => exact halike parts
          | false => rfl
  | trans _ _ ihe ihf =>
    obtain ⟨hf, hef⟩ := ihe ht
    obtain ⟨hg, hfg⟩ := ihf hf
    exact ⟨hg, fun parts => (hef parts).trans (hfg parts)⟩

theorem Alike.symm (h : Alike e f) : Alike f e := fun parts => (h parts).symm

theorem Alike.bare_eq (h : Alike e f) : bare e = bare f := Option.some.inj (h [])

theorem Alike.isDirectoryEntry_eq (h : Alike e f) : e.isDirectoryEntry = f.isDirectoryEntry := by
  have hbare := h.bare_eq
  cases e <;> cases f <;> simp_all [bare, isDirectoryEntry]

/-- What is found in one of two trees alike has its like in the other. -/
theorem Alike.exists_at? (h : Alike e f) {parts : List String} (hx : at? parts e = some x) :
    ∃ y, at? parts f = some y ∧ Alike x y := by
  have hparts := h parts
  rw [hx, Option.map_some] at hparts
  obtain ⟨y, hy, -⟩ := Option.map_eq_some_iff.1 hparts.symm
  refine ⟨y, hy, fun q => ?_⟩
  have hq := h (parts ++ q)
  rwa [at?_append, at?_append, hx, hy] at hq

/-- There are four ways for a place to be in trees alike. -/
theorem Alike.cases (h : Alike tree tree') (p : Place) :
    (at? p tree = none ∧ at? p tree' = none) ∨
    (∃ bytes, at? p tree = some (.file bytes) ∧ at? p tree' = some (.file bytes)) ∨
    (∃ target, at? p tree = some (.link target) ∧ at? p tree' = some (.link target)) ∨
    ∃ es es', at? p tree = some (.directory es) ∧ at? p tree' = some (.directory es') := by
  cases hx : at? p tree with
  | none =>
    cases hy : at? p tree' with
    | none => exact Or.inl ⟨rfl, rfl⟩
    | some y =>
      obtain ⟨x, hx', -⟩ := h.symm.exists_at? hy
      rw [hx] at hx'
      cases hx'
  | some x =>
    obtain ⟨y, hy, hxy⟩ := h.exists_at? hx
    have hbare := hxy.bare_eq
    cases x <;> cases y <;> simp_all [bare]

/-- Following a path looks only at where directories, files and links are. -/
theorem Alike.walk_eq (h : Alike tree tree') (create : Bool)
    (jump : Place → List String → Except WriteFault Place) (p : Place) (parts : List String) :
    tree.walk create jump p parts = tree'.walk create jump p parts := by
  induction parts generalizing p with
  | nil =>
    rw [walk, walk]
    obtain ⟨hx, hy⟩ | ⟨_, hx, hy⟩ | ⟨_, hx, hy⟩ | ⟨_, _, hx, hy⟩ := h.cases p
    all_goals simp only [hx, hy, Option.isSome_none, Option.isSome_some]
  | cons part rest ih =>
    rw [walk, walk]
    obtain ⟨hx, hy⟩ | ⟨_, hx, hy⟩ | ⟨_, hx, hy⟩ | ⟨_, _, hx, hy⟩ := h.cases p
    all_goals simp only [hx, hy]
    -- in a directory, what stands under the next name is of one kind, too
    split
    · exact ih _
    · obtain ⟨hx, hy⟩ | ⟨_, hx, hy⟩ | ⟨_, hx, hy⟩ | ⟨_, _, hx, hy⟩ := h.cases (p ++ [part])
      all_goals simp only [hx, hy, ih]

theorem Alike.reachWithin_eq (h : Alike tree tree') (create : Bool) (n : Nat) :
    tree.reachWithin create n = tree'.reachWithin create n := by
  induction n with
  | zero =>
    funext p parts
    exact h.walk_eq create _ p parts
  | succ n ih =>
    funext p parts
    rw [reachWithin, reachWithin, ih]
    exact h.walk_eq create _ p parts

end Alike

end Entry

namespace FileSystem

variable {files : FileSystem} {root : Entry} {path : Path}

/-- A path leads in trees alike to the same place. -/
theorem exists_find?_of_alike (h : Entry.Alike files.root root) {x : Entry}
    (hx : files.find? path = some x) :
    ∃ y, { files with root := root }.find? path = some y ∧ Entry.Alike x y := by
  obtain ⟨place, hplace, hx⟩ := Option.bind_eq_some_iff.1 hx
  obtain ⟨y, hy, halike⟩ := h.exists_at? hx
  refine ⟨y, ?_, halike⟩
  rw [find?, reach, ← h.reachWithin_eq]
  exact Option.bind_eq_some_iff.2 ⟨place, hplace, hy⟩

theorem isFile_iff : files.isFile path = true ↔ ∃ bytes, files.find? path = some (.file bytes) := by
  rw [isFile, read?]
  rcases files.find? path with _ | _ | _ | _ <;> simp

theorem isDirectory_iff :
    files.isDirectory path = true ↔ ∃ es, files.find? path = some (.directory es) := by
  rw [isDirectory]
  rcases files.find? path with _ | _ | _ | _ <;> simp [Entry.isDirectoryEntry]

theorem isFile_of_alike (h : Entry.Alike files.root root) (hf : files.isFile path = true) :
    { files with root := root }.isFile path = true := by
  obtain ⟨bytes, hx⟩ := isFile_iff.1 hf
  obtain ⟨y, hy, halike⟩ := exists_find?_of_alike h hx
  have hbare := halike.bare_eq
  cases y with
  | file bytes' => exact isFile_iff.2 ⟨bytes', hy⟩
  | link _ => cases hbare
  | directory _ => cases hbare

theorem isDirectory_of_alike (h : Entry.Alike files.root root) (hd : files.isDirectory path = true) :
    { files with root := root }.isDirectory path = true := by
  obtain ⟨es, hx⟩ := isDirectory_iff.1 hd
  obtain ⟨y, hy, halike⟩ := exists_find?_of_alike h hx
  have hbare := halike.bare_eq
  cases y with
  | file _ => cases hbare
  | link _ => cases hbare
  | directory es' => exact isDirectory_iff.2 ⟨es', hy⟩

end FileSystem

end MarkupCensus
