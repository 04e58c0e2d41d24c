import MarkupCensus.Proofs.Merge
import MarkupCensus.Proofs.Results
import MarkupCensus.Scan.Basic

namespace MarkupCensus

/-- What a node inherits from its children holds of every node. -/
theorem Node.childInduction {P : Node → Prop} (h : ∀ n : Node, (∀ c ∈ n.children, P c) → P n)
    (n : Node) : P n := by
  refine h n ?_
  intro c hc
  have : c.size < n.size := Node.size_lt_of_mem hc
  exact Node.childInduction h c
termination_by n.size

mutual

/-- The nodes of a tree, in pre-order. -/
def Node.nodes : Node → List Node
  | n@⟨_, _, _, _, _, _, cs⟩ => n :: Node.nodesAll cs

/-- The nodes of a list of trees. -/
def Node.nodesAll : List Node → List Node
  | [] => []
  | n :: ns => n.nodes ++ Node.nodesAll ns

end

theorem Node.nodesAll_eq_flatMap (ns : List Node) : nodesAll ns = ns.flatMap nodes := by
  induction ns with
  | nil => rfl
  | cons n ns ih => rw [nodesAll, ih, List.flatMap_cons]

theorem Node.nodes_eq (n : Node) : n.nodes = n :: n.children.flatMap nodes := by
  cases n
  rw [nodes, nodesAll_eq_flatMap]

theorem Node.self_mem_nodes (n : Node) : n ∈ n.nodes := by
  rw [nodes_eq]
  exact List.mem_cons_self

theorem Node.mem_nodes_of_child {n c m : Node} (hc : c ∈ n.children) (hm : m ∈ c.nodes) :
    m ∈ n.nodes := by
  rw [nodes_eq]
  exact List.mem_cons_of_mem n (List.mem_flatMap.2 ⟨c, hc, hm⟩)

theorem Node.child_mem_nodes {n m c : Node} (hm : m ∈ n.nodes) (hc : c ∈ m.children) :
    c ∈ n.nodes := by
  induction n using childInduction with
  | _ n ih =>
    rw [nodes_eq] at hm
    rcases List.mem_cons.1 hm with rfl | hm
    · exact mem_nodes_of_child hc c.self_mem_nodes
    · obtain ⟨d, hd, hm⟩ := List.mem_flatMap.1 hm
      exact mem_nodes_of_child hd (ih d hd hm)

/-- A search that enters every node finds nothing exactly if nothing in the trees is wanted. -/
theorem searchStack_eq_none_iff {wanted : Node → Bool} {stack : List Node} :
    searchStack wanted (fun _ => true) stack = none ↔
      ∀ n ∈ Node.nodesAll stack, wanted n = false := by
  fun_induction searchStack wanted (fun _ => true) stack with
  | case1 => simp [Node.nodesAll]
  | case2 n rest h =>
    have hn : n ∈ Node.nodesAll (n :: rest) := List.mem_append_left _ n.self_mem_nodes
    simp only [reduceCtorEq, false_iff]
    exact fun hall => by simp [hall n hn] at h
  | case3 n rest h ih =>
    have hc : n.childrenWhere (fun _ => true) = n.children := List.filter_true n.children
    rw [ih, hc, Node.nodesAll_eq_flatMap, Node.nodesAll_eq_flatMap, List.flatMap_append,
      List.flatMap_cons, Node.nodes_eq]
    simp [h]

/-- A tree is accepted if it holds no error and all its elements are balanced. -/
theorem Node.check_eq_ok {src : Source} {root : Node} (herror : root.hasError = false)
    (hbalanced : ∀ n ∈ root.nodes, n.isUnbalanced src = false) : root.check src = .ok root := by
  have hnone : root.unbalanced? src = none := by
    rw [unbalanced?, searchStack_eq_none_iff.2 (by simpa [nodesAll] using hbalanced)]
    rfl
  simp [check, herror, hnone]

/-- The checks pass a tree on as it is. -/
theorem eq_ok_of_check_eq_ok {src : Source} {parsed : Except ParseFailure Node} {root : Node}
    (h : parsed.bind (·.check src) = .ok root) : parsed = .ok root := by
  obtain ⟨n, hn, hcheck⟩ := exists_ok_of_bind_ok h
  rw [hn]
  unfold Node.check at hcheck
  split at hcheck
  · cases hcheck
  · split at hcheck
    · cases hcheck
    · exact hcheck

/-- A tag that is recorded: the name it resolves to, and the use extracted from it. -/
structure TagUse where
  file : SourceFile
  tag : Node
  name : String
  use : Instance
  resolved : ∃ n, tag.child? "name" = some n ∧ n.qualifiedName file.source = .ok name
  extracted : tag.use file.source file.file = .ok use

/-- What a scan makes of one node. -/
inductive Reading where
  /-- No tag, or a tag without a name. -/
  | plain
  /-- A tag whose name is not accepted. -/
  | rejected
  | accepted (u : TagUse)
  /-- A tag whose name or attributes cannot be read. -/
  | faulty (fault : Fault)

/-- The step that a scan takes at a node. -/
def Reading.act (s : ScanState) : Reading → ScanState × Action
  | plain => (s, .proceed)
  | rejected => (s, .skip)
  | accepted u => ({ s with report := s.report.add u.name u.use }, .proceed)
  | faulty fault => ({ s with fault := some fault }, .stop)

namespace Reading

/-- The reading of a tag that came to a use or to a fault. -/
def ofResult : Except Fault TagUse → Reading
  | .ok u => .accepted u
  | .error fault => .faulty fault

variable {r : Reading} {s s' : ScanState}

theorem eq_of_act_stop (h : r.act s = (s', .stop)) :
    ∃ fault, r = .faulty fault ∧ s' = { s with fault := some fault } := by
  cases r <;> simp_all [act]

theorem eq_of_act_skip (h : r.act s = (s', .skip)) : r = .rejected ∧ s' = s := by
  cases r <;> simp_all [act]

theorem eq_of_act_proceed (h : r.act s = (s', .proceed)) : (r = .plain ∧ s' = s) ∨
    ∃ u, r = .accepted u ∧ s' = { s with report := s.report.add u.name u.use } := by
  cases r <;> simp_all [act]

end Reading

def ScanEnd.ofFault? : Option Fault → ScanEnd
  | none => .complete
  | some fault => .aborted fault

/-- Adds uses one after another. -/
def Report.record (r : Report) (us : List TagUse) : Report :=
  us.foldl (fun r u => r.add u.name u.use) r

theorem Report.record_append (r : Report) (us vs : List TagUse) :
    r.record (us ++ vs) = (r.record us).record vs := List.foldl_append

/-- The uses read before the first fault. -/
def usesBefore : List (Except Fault TagUse) → List TagUse
  | .ok u :: rs => u :: usesBefore rs
  | _ => []

def firstFault? : List (Except Fault TagUse) → Option Fault
  | [] => none
  | .ok _ :: rs => firstFault? rs
  | .error fault :: _ => some fault

theorem usesBefore_sublist (rs : List (Except Fault TagUse)) :
    (usesBefore rs).Sublist (rs.filterMap Except.toOption) := by
  induction rs with
  | nil => exact List.Sublist.refl []
  | cons x rs ih =>
    cases x with
    | error fault => exact List.nil_sublist _
    | ok u => exact ih.cons_cons u

theorem mem_of_mem_usesBefore {u : TagUse} {rs : List (Except Fault TagUse)}
    (h : u ∈ usesBefore rs) : .ok u ∈ rs := by
  obtain ⟨x, hx, hu⟩ := List.mem_filterMap.1 ((usesBefore_sublist rs).subset h)
  cases x with
  | error fault => simp [Except.toOption] at hu
  | ok v =>
    obtain rfl : v = u := Option.some.inj hu
    exact hx

theorem mem_of_firstFault?_eq_some {fault : Fault} {rs : List (Except Fault TagUse)}
    (h : firstFault? rs = some fault) : .error fault ∈ rs := by
  induction rs with
  | nil => cases h
  | cons x rs ih =>
    cases x with
    | error e =>
      obtain rfl : e = fault := Option.some.inj h
      exact List.mem_cons_self
    | ok u => exact List.mem_cons_of_mem _ (ih h)

theorem ScanConfig.accepts_eq_true_iff {config : ScanConfig} {imports : ImportTable} {name : String} :
    config.accepts imports name = .ok true ↔ config.allows name = true ∧
      (config.subComponents = true ∨ isDotted name = false) ∧ config.admits imports name = .ok true := by
  unfold accepts
  split
  · next h =>
    simp only [Bool.and_eq_true, Bool.or_eq_true, Bool.not_eq_true'] at h
    simp [h]
  · next h =>
    simp only [Bool.and_eq_true, Bool.or_eq_true, Bool.not_eq_true'] at h
    constructor
    · intro heq
      cases heq
    · rintro ⟨hallows, hdotted, -⟩
      exact absurd ⟨hallows, hdotted⟩ h

/-- A name that is imported from a module that is no text cannot be judged by a pattern. -/
def ScanConfig.Unsearchable (c : ScanConfig) (imports : ImportTable) (fault : Fault) : Prop :=
  (∃ p, c.importedFrom = some (.pattern p)) ∧ ∃ name module, imports.get? name = some module ∧
    (∀ t, module ≠ .text t) ∧ fault = .unsearchable module.typeName

theorem ScanConfig.unsearchable_of_accepts {c : ScanConfig} {imports : ImportTable} {name : String}
    {fault : Fault} (h : c.accepts imports name = .error fault) : c.Unsearchable imports fault := by
  unfold accepts at h
  split at h
  · unfold admits at h
    split at h
    · cases h
    · cases h
    · next p module hp hmodule =>
      unfold Provenance.admits at h
      split at h
      · cases h
      · cases h
      · cases h
      · next q _ htext =>
        exact ⟨⟨q, hp⟩, _, _, hmodule, htext, (Except.error.inj h).symm⟩
  · cases h

namespace Node

variable (config : ScanConfig) (imports : ImportTable) (f : SourceFile)

def reading (n : Node) : Reading :=
  if n.isTag then
    match hn : n.child? "name" with
    | none => .plain
    | some name =>
      match hq : name.qualifiedName f.source with
      | .error fault => .faulty fault
      | .ok qualified =>
        match config.accepts imports qualified with
        | .error fault => .faulty fault
        | .ok false => .rejected
        | .ok true =>
          match hu : n.use f.source f.file with
          | .error fault => .faulty fault
          | .ok use => .accepted ⟨f, n, qualified, use, ⟨name, hn, hq⟩, hu⟩
  else .plain

mutual

/-- What the tags of a tree come to, in pre-order. Nothing inside a tag that is rejected counts. -/
def readings : Node → List (Except Fault TagUse)
  | n@⟨_, _, _, _, _, _, cs⟩ =>
    match n.reading config imports f with
    | .plain => readingsAll cs
    | .rejected => []
    | .accepted u => .ok u :: readingsAll cs
    | .faulty fault => [.error fault]

/-- What the tags of a list of trees come to. -/
def readingsAll : List Node → List (Except Fault TagUse)
  | [] => []
  | n :: ns => readings n ++ readingsAll ns

end

theorem readings_eq (n : Node) : n.readings config imports f =
    match n.reading config imports f with
    | .plain => readingsAll config imports f n.children
    | .rejected => []
    | .accepted u => .ok u :: readingsAll config imports f n.children
    | .faulty fault => [.error fault] := by
  cases n
  rw [readings]

theorem readingsAll_append (ms ns : List Node) : readingsAll config imports f (ms ++ ns) =
    readingsAll config imports f ms ++ readingsAll config imports f ns := by
  induction ms with
  | nil => rfl
  | cons m ms ih => simp only [List.cons_append, readingsAll, ih, List.append_assoc]

theorem readingsAll_eq_flatMap (ns : List Node) :
    readingsAll config imports f ns = ns.flatMap (readings config imports f) := by
  induction ns with
  | nil => rfl
  | cons n ns ih => rw [readingsAll, ih, List.flatMap_cons]

section Inversion

variable {config imports f} {n : Node}

theorem reading_of_not_isTag (h : n.isTag = false) : n.reading config imports f = .plain := by
  simp [reading, h]

/-- A tag with an accepted name and attributes that can be read is recorded. -/
theorem reading_of_use {name : Node} {qualified : String} {use : Instance} (ht : n.isTag = true)
    (hn : n.child? "name" = some name) (hq : name.qualifiedName f.source = .ok qualified)
    (ha : config.accepts imports qualified = .ok true) (hu : n.use f.source f.file = .ok use) :
    n.reading config imports f = .accepted ⟨f, n, qualified, use, ⟨name, hn, hq⟩, hu⟩ := by
  unfold reading
  rw [if_pos ht]
  split
  · next h => simp [hn] at h
  · next name' h =>
    obtain rfl : name = name' := Option.some.inj (hn.symm.trans h)
    split
    · next h' => simp [hq] at h'
    · next qualified' h' =>
      obtain rfl : qualified = qualified' := Except.ok.inj (hq.symm.trans h')
      simp only [ha]
      split
      · next h'' => simp [hu] at h''
      · next use' h'' =>
        obtain rfl : use = use' := Except.ok.inj (hu.symm.trans h'')
        rfl

theorem of_reading_accepted {u : TagUse} (h : n.reading config imports f = .accepted u) :
    n.isTag = true ∧ u.file = f ∧ u.tag = n ∧ config.accepts imports u.name = .ok true := by
  unfold reading at h
  split at h
  · next ht =>
    split at h
    · cases h
    · split at h
      · cases h
      · split at h
        · cases h
        · cases h
        · next ha =>
          split at h
          · cases h
          · obtain rfl := Reading.accepted.inj h
            exact ⟨ht, rfl, rfl, ha⟩
  · cases h

theorem of_reading_faulty {fault : Fault} (h : n.reading config imports f = .faulty fault) :
    ∃ name, n.child? "name" = some name ∧ (name.qualifiedName f.source = .error fault ∨
      (∃ qualified, config.accepts imports qualified = .error fault) ∨
      n.use f.source f.file = .error fault) := by
  unfold reading at h
  split at h
  · split at h
    · cases h
    · next name hn =>
      refine ⟨name, hn, ?_⟩
      split at h
      · next hq =>
        obtain rfl := Reading.faulty.inj h
        exact Or.inl hq
      · next qualified _ =>
        split at h
        · next ha =>
          obtain rfl := Reading.faulty.inj h
          exact Or.inr (Or.inl ⟨qualified, ha⟩)
        · cases h
        · split at h
          · next hu =>
            obtain rfl := Reading.faulty.inj h
            exact Or.inr (Or.inr hu)
          · cases h
  · cases h

/-- What is read off a tree is read off one of its nodes. -/
theorem exists_reading_of_mem_readings {x : Except Fault TagUse}
    (h : x ∈ n.readings config imports f) :
    ∃ m ∈ n.nodes, m.reading config imports f = Reading.ofResult x := by
  induction n using childInduction with
  | _ n ih =>
    have hbelow : x ∈ readingsAll config imports f n.children →
        ∃ m ∈ n.nodes, m.reading config imports f = Reading.ofResult x := by
      intro hx
      rw [readingsAll_eq_flatMap] at hx
      obtain ⟨c, hc, hx⟩ := List.mem_flatMap.1 hx
      obtain ⟨m, hm, hr⟩ := ih c hc hx
      exact ⟨m, mem_nodes_of_child hc hm, hr⟩
    rw [readings_eq] at h
    cases hr : n.reading config imports f with
    | plain => exact hbelow (by simpa [hr] using h)
    | rejected => simp [hr] at h
    | accepted v =>
      simp only [hr, List.mem_cons] at h
      rcases h with rfl | h
      · exact ⟨n, n.self_mem_nodes, hr⟩
      · exact hbelow h
    | faulty fault =>
      simp only [hr, List.mem_singleton] at h
      subst h
      exact ⟨n, n.self_mem_nodes, hr⟩

/-- Only uses of accepted names are read off a tree. -/
theorem accepts_of_mem_readings {u : TagUse} (h : .ok u ∈ n.readings config imports f) :
    config.accepts imports u.name = .ok true := by
  obtain ⟨m, _, hr⟩ := exists_reading_of_mem_readings h
  exact (of_reading_accepted hr).2.2.2

end Inversion

theorem isTag_iff {n : Node} : n.isTag = true ↔
    n.kind = "jsx_opening_element" ∨ n.kind = "jsx_self_closing_element" := by
  simp [isTag, tagKinds]

theorem visitTag_of_isTag {n : Node} (h : n.isTag = true) (s : ScanState) :
    visitTag config imports f s n = ((n.recordTag config imports f s).1,
      (n.recordTag config imports f s).2.getD .proceed) := by
  rcases isTag_iff.1 h with hk | hk <;>
    simp [visitTag, dispatch, tagKinds, OrderedMap.get?_cons, hk]

theorem visitTag_of_not_isTag {n : Node} (h : n.isTag = false) (s : ScanState) :
    visitTag config imports f s n = (s, .proceed) := by
  have hk : n.kind ≠ "jsx_opening_element" ∧ n.kind ≠ "jsx_self_closing_element" := by
    simpa [isTag, tagKinds] using h
  simp [visitTag, dispatch, tagKinds, OrderedMap.get?_cons, hk]

/-- A visit does what the reading of the node says. -/
theorem visitTag_eq (s : ScanState) (n : Node) :
    visitTag config imports f s n = (n.reading config imports f).act s := by
  unfold reading
  split
  · next ht =>
    rw [visitTag_of_isTag config imports f ht]
    split
    · next hn => simp [recordTag, hn, Reading.act]
    · next name hn =>
      split
      · next fault hq => simp [recordTag, hn, acceptedUse?, hq, bind, Except.bind, Reading.act]
      · next qualified hq =>
        split
        · next fault ha =>
          simp [recordTag, hn, acceptedUse?, hq, ha, bind, Except.bind, Reading.act]
        · next ha =>
          simp [recordTag, hn, acceptedUse?, hq, ha, bind, Except.bind, pure, Except.pure,
            Reading.act]
        · next ha =>
          split
          · next fault hu =>
            simp [recordTag, hn, acceptedUse?, hq, ha, hu, bind, Except.bind, Reading.act]
          · next use hu =>
            simp [recordTag, hn, acceptedUse?, hq, ha, hu, bind, Except.bind, pure, Except.pure,
              Reading.act]
  · next ht =>
    rw [visitTag_of_not_isTag config imports f (by simpa using ht)]
    rfl

/-- The trees on the stack stand for the readings still to come. -/
theorem walkStack_visitTag (s : ScanState) (stack : List Node) (hs : s.fault = none) :
    (walkStack (visitTag config imports f) s stack).1 =
      { report := s.report.record (usesBefore (readingsAll config imports f stack)),
        fault := firstFault? (readingsAll config imports f stack) } := by
  fun_induction walkStack (visitTag config imports f) s stack with
  | case1 s =>
    cases s
    subst hs
    rfl
  | case2 s n rest s' h =>
    rw [visitTag_eq] at h
    obtain ⟨fault, hr, rfl⟩ := Reading.eq_of_act_stop h
    -- what is left on the stack comes after the fault, and counts on neither side
    rw [readingsAll, readings_eq, hr]
    rfl
  | case3 s n rest s' h ih =>
    rw [visitTag_eq] at h
    obtain ⟨hr, rfl⟩ := Reading.eq_of_act_skip h
    rw [readingsAll, readings_eq, hr]
    exact ih hs
  | case4 s n rest s' h ih =>
    rw [visitTag_eq] at h
    -- the children were pushed before the rest of the stack
    rw [readingsAll_append] at ih
    obtain ⟨hr, rfl⟩ | ⟨u, hr, rfl⟩ := Reading.eq_of_act_proceed h
    · rw [readingsAll, readings_eq, hr]
      exact ih hs
    · rw [readingsAll, readings_eq, hr]
      exact ih hs

theorem scanTree_eq {root : Node} (h : root.importTable f.source = .ok imports) (r : Report) :
    root.scanTree config f r = (r.record (usesBefore (root.readings config imports f)),
      ScanEnd.ofFault? (firstFault? (root.readings config imports f))) := by
  have hall : readingsAll config imports f [root] = root.readings config imports f :=
    List.append_nil _
  have hw := walkStack_visitTag config imports f { report := r } [root] rfl
  rw [hall] at hw
  simp only [scanTree, h, walk, hw]
  cases firstFault? (root.readings config imports f) <;> rfl

end Node

/-- The uses that a scan adds to a report. -/
def recordedUses (config : ScanConfig) (f : SourceFile) (parsed : Except ParseFailure Node) :
    List TagUse :=
  match parsed.bind (·.check f.source) with
  | .error _ => []
  | .ok root =>
    match root.importTable f.source with
    | .error _ => []
    | .ok imports => usesBefore (root.readings config imports f)

theorem accepts_of_mem_recordedUses {config : ScanConfig} {f : SourceFile}
    {parsed : Except ParseFailure Node} {u : TagUse} (h : u ∈ recordedUses config f parsed) :
    ∃ imports, config.accepts imports u.name = .ok true := by
  unfold recordedUses at h
  split at h
  · cases h
  · split at h
    · cases h
    · next imports _ => exact ⟨imports, Node.accepts_of_mem_readings (mem_of_mem_usesBefore h)⟩

/-- A scan appends to a report and does not otherwise depend on it. -/
theorem scan_eq_record (config : ScanConfig) (f : SourceFile) (parsed : Except ParseFailure Node)
    (r : Report) :
    scan config f parsed r =
      (r.record (recordedUses config f parsed), (scan config f parsed []).2) := by
  unfold scan recordedUses
  cases parsed.bind (·.check f.source) with
  | error failure => rfl
  | ok root =>
    cases hi : root.importTable f.source with
    | error fault => simp only [Node.scanTree, hi]; rfl
    | ok imports => simp only [hi, Node.scanTree_eq config imports f hi]

/-- A scan records the uses that are read off the tree before the first fault, in pre-order, and
nothing else. A source that is refused, or whose imports cannot be read, leaves no trace. -/
theorem scan_records_readings (config : ScanConfig) (f : SourceFile)
    (parsed : Except ParseFailure Node) (r : Report) :
    scan config f parsed r =
      match parsed.bind (·.check f.source) with
      | .error failure => (r, .ofRefusal failure)
      | .ok root =>
        match root.importTable f.source with
        | .error fault => (r, .aborted fault)
        | .ok imports =>
          (r.record (usesBefore (root.readings config imports f)),
            ScanEnd.ofFault? (firstFault? (root.readings config imports f))) := by
  unfold scan
  cases parsed.bind (·.check f.source) with
  | error failure => rfl
  | ok root =>
    cases hi : root.importTable f.source with
    | error fault => simp only [Node.scanTree, hi]
    | ok imports => simp only [hi, Node.scanTree_eq config imports f hi]

end MarkupCensus
