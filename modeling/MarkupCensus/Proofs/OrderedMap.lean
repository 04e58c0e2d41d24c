import Mathlib
import MarkupCensus.OrderedMap

namespace MarkupCensus.OrderedMap

variable {α : Type}

def keys (m : OrderedMap α) : List String := m.map Prod.fst

@[simp] theorem keys_nil : keys ([] : OrderedMap α) = [] := rfl

@[simp] theorem keys_cons (e : String × α) (m : OrderedMap α) : keys (e :: m) = e.1 :: keys m := rfl

theorem alter_ne_nil (m : OrderedMap α) (k : String) (f : Option α → α) : m.alter k f ≠ [] := by
  cases m with
  | nil => simp [alter]
  | cons e m =>
    simp only [alter]
    split <;> simp

/-- A key that is there keeps its place, and a new one comes last. -/
theorem keys_alter (m : OrderedMap α) (k : String) (f : Option α → α) :
    (m.alter k f).keys = if k ∈ m.keys then m.keys else m.keys ++ [k] := by
  induction m with
  | nil => simp [alter]
  | cons e m ih =>
    simp only [alter]
    by_cases h : e.1 = k
    · simp [h]
    · have hk : k ≠ e.1 := fun h' => h h'.symm
      simp only [if_neg h, keys_cons, ih, List.mem_cons, hk, false_or]
      split <;> simp

theorem mem_keys_alter {m : OrderedMap α} {k k' : String} {f : Option α → α} :
    k' ∈ (m.alter k f).keys ↔ k' = k ∨ k' ∈ m.keys := by
  rw [keys_alter]
  split
  · next h =>
    refine ⟨Or.inr, ?_⟩
    rintro (rfl | h')
    · exact h
    · exact h'
  · simp [or_comm]

theorem nodup_keys_alter {m : OrderedMap α} (h : m.keys.Nodup) (k : String) (f : Option α → α) :
    (m.alter k f).keys.Nodup := by
  rw [keys_alter]
  split
  · exact h
  · next hk => exact List.nodup_append.2 ⟨h, List.nodup_singleton k, by
      intro a ha b hb hab
      rw [List.mem_singleton.1 hb] at hab
      exact hk (hab ▸ ha)⟩

@[simp] theorem get?_nil (k : String) : get? ([] : OrderedMap α) k = none := rfl

theorem get?_cons (e : String × α) (m : OrderedMap α) (k : String) :
    get? (e :: m) k = if k = e.1 then some e.2 else get? m k := by
  simp only [get?, List.lookup]
  by_cases h : k = e.1
  · simp [h]
  · have hb : (k == e.1) = false := by simpa using h
    simp [h, hb]

theorem get?_map {β : Type} (m : OrderedMap α) (f : α → β) (k : String) :
    get? (m.map fun e => (e.1, f e.2)) k = (m.get? k).map f := by
  induction m with
  | nil => rfl
  | cons e m ih =>
    rw [List.map_cons, get?_cons, get?_cons, ih]
    by_cases h : k = e.1 <;> simp [h]

theorem get?_alter (m : OrderedMap α) (k k' : String) (f : Option α → α) :
    (m.alter k f).get? k' = if k' = k then some (f (m.get? k)) else m.get? k' := by
  induction m with
  | nil => simp only [alter, get?_cons, get?_nil]
  | cons e m ih =>
    simp only [alter]
    by_cases h : e.1 = k
    · subst h
      by_cases hk : k' = e.1 <;> simp [get?_cons, hk]
    · have hke : k ≠ e.1 := fun h' => h h'.symm
      rw [if_neg h, get?_cons, get?_cons, get?_cons, ih, if_neg hke]
      by_cases hk : k' = k
      · subst hk
        rw [if_neg hke, if_pos rfl, if_pos rfl]
      · rw [if_neg hk, if_neg hk]

theorem get?_eq_some_iff {m : OrderedMap α} (h : m.keys.Nodup) {k : String} {a : α} :
    m.get? k = some a ↔ (k, a) ∈ m := by
  induction m with
  | nil => simp
  | cons e m ih =>
    rw [keys_cons, List.nodup_cons] at h
    rw [get?_cons, List.mem_cons]
    by_cases hk : k = e.1
    · subst hk
      have hm : (e.1, a) ∉ m := fun hm => h.1 (List.mem_map.2 ⟨_, hm, rfl⟩)
      simp [hm, Prod.ext_iff, eq_comm]
    · simp [hk, ih h.2, Prod.ext_iff]

/-- The order of the keys has no part in what stands at them. -/
theorem get?_perm {m m' : OrderedMap α} (h : m.keys.Nodup) (hm : m.Perm m') (k : String) :
    m.get? k = m'.get? k := by
  have h' : m'.keys.Nodup := (hm.map Prod.fst).nodup_iff.1 h
  ext a
  rw [get?_eq_some_iff h, get?_eq_some_iff h', hm.mem_iff]

theorem set_of_not_mem {m : OrderedMap α} {k : String} (hk : k ∉ m.keys) (a : α) :
    m.set k a = m ++ [(k, a)] := by
  induction m with
  | nil => rfl
  | cons e m ih =>
    simp only [keys_cons, List.mem_cons, not_or] at hk
    rw [set, alter, if_neg (Ne.symm hk.1), ← set, ih hk.2, List.cons_append]

theorem foldl_set_of_nodup {m : OrderedMap α} {ps : List (String × α)}
    (h : (m.keys ++ ps.map Prod.fst).Nodup) : ps.foldl (fun m p => m.set p.1 p.2) m = m ++ ps := by
  induction ps generalizing m with
  | nil => simp
  | cons p ps ih =>
    have hp : p.1 ∉ m.keys := fun hp => (List.nodup_append.1 h).2.2 p.1 hp p.1 (by simp) rfl
    have hnext : (keys (m ++ [(p.1, p.2)]) ++ ps.map Prod.fst).Nodup := by simpa [keys] using h
    rw [List.foldl_cons, set_of_not_mem hp, ih hnext, List.append_assoc, List.singleton_append]

/-- A list of pairs with distinct keys is the map it makes. -/
theorem ofPairs_eq_self {ps : List (String × α)} (h : (ps.map Prod.fst).Nodup) : ofPairs ps = ps :=
  foldl_set_of_nodup (by simpa using h)

theorem eraseDups_concat (xs : List String) (x : String) :
    (xs ++ [x]).eraseDups = if x ∈ xs then xs.eraseDups else xs.eraseDups ++ [x] := by
  rw [List.eraseDups_append]
  by_cases h : x ∈ xs
  · have hnone : [x].removeAll xs = [] := by simp [List.removeAll, h]
    rw [hnone, if_pos h, List.eraseDups_nil, List.append_nil]
  · have hone : [x].removeAll xs = [x] := by simp [List.removeAll, h]
    rw [hone, if_neg h]
    rfl

theorem ofPairs_concat (ps : List (String × α)) (p : String × α) :
    ofPairs (ps ++ [p]) = (ofPairs ps).set p.1 p.2 := List.foldl_concat _ _ _ _

/-- The keys stand in the order in which they first occur. -/
theorem keys_ofPairs (ps : List (String × α)) : (ofPairs ps).keys = (ps.map Prod.fst).eraseDups := by
  induction ps using List.reverseRecOn with
  | nil => rfl
  | append_singleton ps p ih =>
    rw [ofPairs_concat, set, keys_alter, ih, List.map_append, List.map_singleton, eraseDups_concat]
    simp only [List.mem_eraseDups]

theorem get?_ofPairs (ps : List (String × α)) (k : String) :
    (ofPairs ps).get? k = ps.reverse.lookup k := by
  induction ps using List.reverseRecOn with
  | nil => rfl
  | append_singleton ps p ih =>
    rw [ofPairs_concat, set, get?_alter, List.reverse_concat]
    change _ = get? (p :: ps.reverse) k
    rw [get?_cons, ih]
    rfl

/-- A key has the value with which it last occurs. -/
theorem get?_ofPairs_eq_some_iff {ps : List (String × α)} {k : String} {a : α} :
    (ofPairs ps).get? k = some a ↔
      ∃ before after, ps = before ++ (k, a) :: after ∧ k ∉ after.map Prod.fst := by
  rw [get?_ofPairs, List.lookup_eq_some_iff]
  constructor
  · rintro ⟨later, earlier, hps, hlater⟩
    refine ⟨earlier.reverse, later.reverse, ?_, ?_⟩
    · rw [← List.reverse_reverse ps, hps]
      simp
    · rw [List.map_reverse, List.mem_reverse, List.mem_map]
      rintro ⟨p, hp, rfl⟩
      simpa using hlater p hp
  · rintro ⟨before, after, rfl, hafter⟩
    refine ⟨after.reverse, before.reverse, by simp, ?_⟩
    intro p hp
    have hne : k ≠ p.1 := by
      rintro rfl
      exact hafter (List.mem_map_of_mem (List.mem_reverse.1 hp))
    simpa using hne

/-- What is in a map after a change was there before, or stands at the changed key. -/
theorem mem_alter {m : OrderedMap α} {k : String} {f : Option α → α} {e : String × α}
    (h : e ∈ m.alter k f) : e ∈ m ∨ e = (k, f none) ∨ ∃ a, (k, a) ∈ m ∧ e = (k, f (some a)) := by
  induction m with
  | nil => exact Or.inr (Or.inl (List.mem_singleton.1 h))
  | cons d m ih =>
    simp only [alter] at h
    split at h
    · next hk =>
      subst hk
      rcases List.mem_cons.1 h with rfl | h
      · exact Or.inr (Or.inr ⟨d.2, List.mem_cons_self, rfl⟩)
      · exact Or.inl (List.mem_cons_of_mem d h)
    · rcases List.mem_cons.1 h with rfl | h
      · exact Or.inl List.mem_cons_self
      · rcases ih h with h | h | ⟨a, ha, he⟩
        · exact Or.inl (List.mem_cons_of_mem d h)
        · exact Or.inr (Or.inl h)
        · exact Or.inr (Or.inr ⟨a, List.mem_cons_of_mem d ha, he⟩)

theorem alter_eq_self {m : OrderedMap α} {k : String} {a : α} {f : Option α → α}
    (h : m.get? k = some a) (hf : f (some a) = a) : m.alter k f = m := by
  induction m with
  | nil => simp at h
  | cons e m ih =>
    rw [get?_cons] at h
    by_cases hk : k = e.1
    · obtain rfl : e.2 = a := by simpa [hk] using h
      simp [alter, hk, hf]
    · have hm : alter m k f = m := ih (by simpa [hk] using h)
      simp [alter, Ne.symm hk, hm]

theorem alter_alter_self (m : OrderedMap α) (k : String) (f g : Option α → α) :
    (m.alter k f).alter k g = m.alter k fun o => g (some (f o)) := by
  induction m with
  | nil => simp [alter]
  | cons e m ih =>
    simp only [alter]
    by_cases h : e.1 = k
    · simp [h, alter]
    · simp [h, alter, ih]

/-- Changes at different keys commute if one of the keys is there already: otherwise their order
would show in the order of the keys. -/
theorem alter_comm {m : OrderedMap α} {k k' : String} (hne : k ≠ k') (hk : k ∈ m.keys)
    (f g : Option α → α) : (m.alter k f).alter k' g = (m.alter k' g).alter k f := by
  induction m with
  | nil => simp at hk
  | cons e m ih =>
    by_cases h : e.1 = k
    · simp [alter, h, hne]
    · by_cases h' : e.1 = k'
      · simp [alter, h', Ne.symm hne]
      · -- neither change is made here, and the key is still ahead
        have hm : k ∈ keys m := by
          rcases List.mem_cons.1 hk with rfl | hm
          · exact absurd rfl h
          · exact hm
        simp [alter, h, h', ih hm]

end MarkupCensus.OrderedMap
