import MarkupCensus.Project.Files
import MarkupCensus.Proofs.OrderedMap

namespace MarkupCensus

namespace Entry

variable {tree e x : Entry} {parts : List String}

theorem at?_cons (name : String) (rest : List String) (tree : Entry) :
    at? (name :: rest) tree = (OrderedMap.get? tree.entries name).bind (at? rest) := rfl

/-- What is found under the first name of a path after an insertion. -/
theorem at?_insertAt_cons (e : Entry) (name key : String) (rest path : List String) (tree : Entry) :
    at? (key :: path) (insertAt e (name :: rest) tree) =
      if key = name then
        at? path (insertAt e rest ((OrderedMap.get? tree.entries name).getD (.directory [])))
      else at? (key :: path) tree := by
  have hentries : (insertAt e (name :: rest) tree).entries =
      OrderedMap.alter tree.entries name fun o => insertAt e rest (o.getD (.directory [])) := by
    rw [insertAt]
    rfl
  rw [at?_cons, hentries, OrderedMap.get?_alter]
  split <;> rfl

/-- What has been put somewhere is found there. -/
theorem at?_insertAt (e : Entry) (parts : List String) (tree : Entry) :
    at? parts (insertAt e parts tree) = some e := by
  induction parts generalizing tree with
  | nil => rfl
  | cons name rest ih => rw [at?_insertAt_cons, if_pos rfl, ih]

theorem at?_append (p q : List String) (tree : Entry) :
    at? (p ++ q) tree = (at? p tree).bind (at? q) := by
  induction p generalizing tree with
  | nil => rfl
  | cons name p ih =>
    rw [List.cons_append, at?_cons, at?_cons, Option.bind_assoc]
    congr 1
    funext e
    exact ih e

/-- Only directories lead further. -/
theorem isDirectoryEntry_of_at?_cons {name : String} {rest : List String}
    (h : at? (name :: rest) tree = some e) : tree.isDirectoryEntry = true := by
  cases tree with
  | directory es => rfl
  | file bytes => cases h
  | link target => cases h

/-- On the way to something there are only directories. -/
theorem isDirectoryEntry_of_at?_append {p q : List String} {name : String}
    (h : at? (p ++ name :: q) tree = some e) :
    ∃ d, at? p tree = some d ∧ d.isDirectoryEntry = true := by
  rw [at?_append] at h
  obtain ⟨d, hd, hrest⟩ := Option.bind_eq_some_iff.1 h
  exact ⟨d, hd, isDirectoryEntry_of_at?_cons hrest⟩

/-- Whether everything above the end of some names is a directory. -/
def IsReachable (tree : Entry) (parts : List String) : Prop :=
  ∀ p name q, parts = p ++ name :: q → ∃ d, at? p tree = some d ∧ d.isDirectoryEntry = true

theorem isReachable_of_at? (h : at? parts tree = some e) : IsReachable tree parts := by
  rintro p name q rfl
  exact isDirectoryEntry_of_at?_append h

theorem isReachable_concat {name : String} (h : at? parts tree = some e)
    (he : e.isDirectoryEntry = true) : IsReachable tree (parts ++ [name]) := by
  intro p key q hq
  rcases List.eq_nil_or_concat q with rfl | ⟨r, last, rfl⟩
  · obtain ⟨rfl, -⟩ := List.append_inj' hq rfl
    exact ⟨e, h, he⟩
  · have hlast : parts ++ [name] = (p ++ key :: r) ++ [last] := by simpa using hq
    obtain ⟨rfl, -⟩ := List.append_inj' hlast rfl
    exact isDirectoryEntry_of_at?_append h

theorem IsReachable.tail {name : String} {rest : List String} {child : Entry}
    (h : IsReachable tree (name :: rest)) (hc : OrderedMap.get? tree.entries name = some child) :
    IsReachable child rest := by
  intro p key q hq
  have hp := h (name :: p) key q (by rw [hq]; rfl)
  rwa [at?_cons, hc, Option.bind_some] at hp

/-- What takes the place of an entry elsewhere changes nothing here: directories stay directories, and
the rest stays as it is. -/
theorem at?_insertAt_of_ne (e : Entry) (hr : IsReachable tree parts)
    (hd : ∀ d, at? parts tree = some d → d.isDirectoryEntry = false) {q : List String}
    (hq : q ≠ parts) (hx : at? q tree = some x) :
    ∃ y, at? q (insertAt e parts tree) = some y ∧
      (y = x ∨ x.isDirectoryEntry = true ∧ y.isDirectoryEntry = true) := by
  induction parts generalizing tree q with
  | nil =>
    cases q with
    | nil => exact absurd rfl hq
    | cons key path =>
      have hfalse := hd tree rfl
      rw [isDirectoryEntry_of_at?_cons hx] at hfalse
      cases hfalse
  | cons name rest ih =>
    cases q with
    | nil =>
      obtain rfl : tree = x := Option.some.inj hx
      obtain ⟨d, htree, hdir⟩ := hr [] name rest rfl
      obtain rfl : tree = d := Option.some.inj htree
      exact ⟨_, rfl, Or.inr ⟨hdir, by rw [insertAt]; rfl⟩⟩
    | cons key path =>
      -- the paths share their first name and go on together, or part here for good
      rw [at?_insertAt_cons]
      by_cases hkey : key = name
      · subst hkey
        rw [at?_cons] at hx
        obtain ⟨child, hchild, hx'⟩ := Option.bind_eq_some_iff.1 hx
        replace hchild : OrderedMap.get? tree.entries key = some child := hchild
        rw [if_pos rfl, hchild, Option.getD_some]
        refine ih (hr.tail hchild) (fun d hat => hd d ?_) (fun h => hq (by rw [h])) hx'
        rw [at?_cons, hchild, Option.bind_some, hat]
      · rw [if_neg hkey]
        exact ⟨x, hx, Or.inl rfl⟩

/-- Where a file can be put: all above it is there, and no directory or link has its name. -/
structure IsSpot (tree : Entry) (place : Place) : Prop where
  reachable : IsReachable tree place
  isFile : ∀ d, at? place tree = some d → ∃ bytes, d = .file bytes

variable {place p : Place} {bytes : List UInt8} {es : List (String × Entry)}

/-- The tree after a file has been put into it. -/
def withFile (tree : Entry) (place : Place) (bytes : List UInt8) : Entry :=
  insertAt (.file bytes) place tree

theorem at?_withFile (tree : Entry) (place : Place) (bytes : List UInt8) :
    at? place (tree.withFile place bytes) = some (.file bytes) := at?_insertAt _ _ _

/-- A new file leaves what is elsewhere as it is, but for the contents of directories. -/
theorem IsSpot.at?_stays (h : IsSpot tree place) (bytes : List UInt8) (hp : at? p tree = some x) :
    ∃ y, at? p (tree.withFile place bytes) = some y ∧
      (y = x ∨ y.isDirectoryEntry = true ∧ x.isDirectoryEntry = true ∨
        y = .file bytes ∧ ∃ old, x = .file old) := by
  by_cases heq : p = place
  · subst heq
    exact ⟨_, at?_withFile tree p bytes, Or.inr (Or.inr ⟨rfl, h.isFile x hp⟩)⟩
  · have hfile : ∀ d, at? place tree = some d → d.isDirectoryEntry = false := by
      intro d hd
      obtain ⟨old, rfl⟩ := h.isFile d hd
      rfl
    obtain ⟨y, hy, hcases⟩ := at?_insertAt_of_ne (.file bytes) h.reachable hfile heq hp
    exact ⟨y, hy, hcases.imp_right fun hdir => Or.inl hdir.symm⟩

theorem IsSpot.directory_stays (h : IsSpot tree place) (bytes : List UInt8)
    (hp : at? p tree = some (.directory es)) :
    ∃ es', at? p (tree.withFile place bytes) = some (.directory es') := by
  obtain ⟨y, hy, rfl | ⟨hdir, -⟩ | ⟨-, old, hold⟩⟩ := h.at?_stays bytes hp
  · exact ⟨es, hy⟩
  · cases y with
    | directory es' => exact ⟨es', hy⟩
    | file _ => cases hdir
    | link _ => cases hdir
  · cases hold

theorem IsSpot.link_stays (h : IsSpot tree place) (bytes : List UInt8) {target : String}
    (hp : at? p tree = some (.link target)) :
    at? p (tree.withFile place bytes) = some (.link target) := by
  obtain ⟨y, hy, rfl | ⟨-, hdir⟩ | ⟨-, old, hold⟩⟩ := h.at?_stays bytes hp
  · exact hy
  · cases hdir
  · cases hold

theorem IsSpot.no_link_stays (h : IsSpot tree place) (bytes : List UInt8) (hp : at? p tree = some x)
    (hx : ∀ target, x ≠ .link target) :
    ∃ y, at? p (tree.withFile place bytes) = some y ∧ ∀ target, y ≠ .link target := by
  obtain ⟨y, hy, rfl | ⟨hdir, -⟩ | ⟨rfl, -⟩⟩ := h.at?_stays bytes hp
  · exact ⟨y, hy, hx⟩
  · refine ⟨y, hy, ?_⟩
    rintro target rfl
    cases hdir
  · exact ⟨_, hy, by simp⟩

/-- Above a directory there is a directory, or the root itself. -/
theorem at?_dropLast_of_directory (h : at? p tree = some (.directory es)) :
    ∃ es', at? p.dropLast tree = some (.directory es') := by
  rcases List.eq_nil_or_concat p with rfl | ⟨above, last, rfl⟩
  · exact ⟨es, h⟩
  · rw [List.concat_eq_append] at h ⊢
    rw [List.dropLast_concat]
    obtain ⟨d, hd, hdir⟩ := isDirectoryEntry_of_at?_append h
    cases d with
    | directory es' => exact ⟨es', hd⟩
    | file _ => cases hdir
    | link _ => cases hdir

/-- A path that is met in a directory starts at a directory. -/
theorem at?_startFrom_of_directory (h : at? p tree = some (.directory es)) (path : Path) :
    ∃ es', at? (path.startFrom p) tree = some (.directory es') := by
  unfold Path.startFrom
  split
  · cases p with
    | nil => exact ⟨es, h⟩
    | cons name rest =>
      have hdir := isDirectoryEntry_of_at?_cons h
      cases tree with
      | directory es' => exact ⟨es', rfl⟩
      | file _ => cases hdir
      | link _ => cases hdir
  · exact ⟨es, h⟩

section Walk

variable {create : Bool} {jump jump' : Place → List String → Except WriteFault Place}

/-- A walk that ends at no directory ends where a file can be put, if this holds behind each link. -/
theorem isSpot_of_walk (hjump : ∀ p parts, jump p parts = .ok place →
      (∀ target, at? p tree ≠ some (.link target)) → IsSpot tree place)
    (h : tree.walk create jump p parts = .ok place) (hp : ∀ target, at? p tree ≠ some (.link target))
    (hd : ∀ es, at? place tree ≠ some (.directory es)) : IsSpot tree place := by
  fun_induction walk tree create jump p parts with
  -- nothing is left of the path: something is there, and it is neither a link nor a directory
  | case1 p hsome =>
    cases h
    obtain ⟨e, he⟩ := Option.isSome_iff_exists.1 hsome
    refine ⟨isReachable_of_at? he, ?_⟩
    intro d hat
    obtain rfl : e = d := Option.some.inj (he.symm.trans hat)
    cases e with
    | file bytes => exact ⟨bytes, rfl⟩
    | link target => exact absurd he (hp target)
    | directory es => exact absurd he (hd es)
  | case3 p part rest es hdir _ ih =>
    obtain ⟨es', hup⟩ := at?_dropLast_of_directory hdir
    exact ih h (by simp [hup])
  | case4 p part rest es hdir _ target _ path =>
    obtain ⟨es', hstart⟩ := at?_startFrom_of_directory hdir path
    exact hjump _ _ h (by simp [hstart])
  | case5 p part rest es hdir _ e hlink hnext ih =>
    refine ih h ?_
    intro target htarget
    rw [hnext] at htarget
    exact hlink target (Option.some.inj htarget)
  -- the last part of the path names nothing yet
  | case6 p part rest es hdir _ hnone =>
    cases h
    refine ⟨isReachable_concat hdir rfl, ?_⟩
    intro d hat
    rw [hat] at hnone
    cases hnone
  | _ => cases h

/-- A walk leads to the file that has been put where it led. -/
theorem walk_withFile (hs : IsSpot tree place) (bytes : List UInt8)
    (hjump : ∀ p parts, jump p parts = .ok place → jump' p parts = .ok place)
    (h : tree.walk create jump p parts = .ok place) :
    (tree.withFile place bytes).walk false jump' p parts = .ok place := by
  have hfile := at?_withFile tree place bytes
  fun_induction walk tree create jump p parts with
  | case1 p hsome =>
    cases h
    simp [walk, hfile]
  | case3 p part rest es hdir hup ih =>
    obtain ⟨es', hdir'⟩ := hs.directory_stays bytes hdir
    simp [walk, hdir', eq_of_beq hup, ih h]
  | case4 p part rest es hdir hup target hlink path =>
    obtain ⟨es', hdir'⟩ := hs.directory_stays bytes hdir
    simp [walk, hdir', hup, hs.link_stays bytes hlink, hjump _ _ h, path]
  | case5 p part rest es hdir hup e hlink hnext ih =>
    obtain ⟨es', hdir'⟩ := hs.directory_stays bytes hdir
    obtain ⟨y, hy, hno⟩ := hs.no_link_stays bytes hnext hlink
    rw [walk, hdir']
    simp only [hup, Bool.false_eq_true, if_false, hy]
    cases y with
    | link target => exact absurd rfl (hno target)
    | file _ => exact ih h
    | directory _ => exact ih h
  | case6 p part rest es hdir hup hnone hlast =>
    cases h
    obtain ⟨es', hdir'⟩ := hs.directory_stays bytes hdir
    obtain rfl : rest = [] := by simp_all
    simp [walk, hdir', hup, hfile]
  | _ => cases h

end Walk

section Reach

variable {create : Bool} {n : Nat}

theorem isSpot_of_reachWithin (h : tree.reachWithin create n p parts = .ok place)
    (hp : ∀ target, at? p tree ≠ some (.link target))
    (hd : ∀ es, at? place tree ≠ some (.directory es)) : IsSpot tree place := by
  induction n generalizing p parts with
  | zero =>
    rw [reachWithin] at h
    refine isSpot_of_walk ?_ h hp hd
    intro _ _ hjump
    cases hjump
  | succ n ih => exact isSpot_of_walk (fun _ _ hjump hstart => ih hjump hstart) h hp hd

theorem reachWithin_withFile (hs : IsSpot tree place) (bytes : List UInt8)
    (h : tree.reachWithin create n p parts = .ok place) :
    (tree.withFile place bytes).reachWithin false n p parts = .ok place := by
  induction n generalizing p parts with
  | zero =>
    rw [reachWithin] at h ⊢
    refine walk_withFile hs bytes ?_ h
    intro _ _ hjump
    cases hjump
  | succ n ih => exact walk_withFile hs bytes (fun _ _ hjump => ih hjump) h

/-- A path without parts leads to where it starts. -/
theorem reachWithin_nil_iff :
    tree.reachWithin create n p [] = .ok place ↔ p = place ∧ (at? p tree).isSome = true := by
  cases n
  all_goals
    rw [reachWithin, walk]
    split <;> simp_all

/-- A path that is followed starts at a directory, unless it ends there. -/
theorem reachWithin_of_ne_nil (hparts : parts ≠ [])
    (h : tree.reachWithin create n p parts = .ok place) : ∃ es, at? p tree = some (.directory es) := by
  obtain ⟨part, rest, rfl⟩ := List.exists_cons_of_ne_nil hparts
  cases n
  all_goals
    rw [reachWithin, walk] at h
    split at h
    next es hdir => exact ⟨es, hdir⟩
    all_goals cases h

/-- A file is found where it has been put, by the path that led there. -/
theorem reachWithin_of_withFile (h : tree.reachWithin create n p parts = .ok place)
    (hd : ∀ es, at? place tree ≠ some (.directory es)) (bytes : List UInt8) :
    (tree.withFile place bytes).reachWithin false n p parts = .ok place := by
  cases parts with
  | nil =>
    -- what the path starts at need not be a directory then
    obtain ⟨rfl, -⟩ := reachWithin_nil_iff.1 h
    exact reachWithin_nil_iff.2 ⟨rfl, by rw [at?_withFile]; rfl⟩
  | cons part rest =>
    obtain ⟨es, hdir⟩ := reachWithin_of_ne_nil (by simp) h
    exact reachWithin_withFile (isSpot_of_reachWithin h (by simp [hdir]) hd) bytes h

end Reach

end Entry

namespace FileSystem

variable {files after : FileSystem} {path : Path} {bytes : List UInt8}

/-- A file can be written where a path leads to no directory. -/
theorem write_eq_ok_iff : files.write path bytes = .ok after ↔
    ∃ place, files.reach true path = .ok place ∧
      (∀ es, files.root.at? place ≠ some (.directory es)) ∧
      after = { files with root := files.root.withFile place bytes } := by
  unfold write
  cases hreach : files.reach true path with
  | error fault => simp [bind, Except.bind]
  | ok place =>
    simp only [bind, Except.bind, Except.ok.injEq, exists_eq_left']
    split
    next es hdir =>
      constructor
      · intro h
        cases h
      · rintro ⟨hno, -⟩
        exact absurd hdir (hno es)
    next hno =>
      constructor
      · intro h
        exact ⟨hno, (Except.ok.inj h).symm⟩
      · rintro ⟨-, rfl⟩
        rfl

/-- Whether a file can be written does not depend on what is written. -/
theorem write_of_write (h : files.write path bytes = .ok after) (bytes' : List UInt8) :
    ∃ after', files.write path bytes' = .ok after' := by
  obtain ⟨place, hreach, hno, -⟩ := write_eq_ok_iff.1 h
  exact ⟨_, write_eq_ok_iff.2 ⟨place, hreach, hno, rfl⟩⟩

/-- What is written to a file is what is read from it. -/
theorem read?_write (h : files.write path bytes = .ok after) : after.read? path = some bytes := by
  obtain ⟨place, hreach, hno, rfl⟩ := write_eq_ok_iff.1 h
  have hfound : (files.root.withFile place bytes).reachWithin false files.linkLimit
      (path.startFrom files.working) path.parts = .ok place :=
    Entry.reachWithin_of_withFile hreach hno bytes
  simp [read?, find?, reach, hfound, Entry.at?_withFile, Except.toOption]

end FileSystem

end MarkupCensus
