import MarkupCensus.Proofs.Padding
import MarkupCensus.Proofs.Search

namespace MarkupCensus

namespace Node

section Imports

variable {s : Setting} {n m : Node} (src : Source)

theorem below_elsewhere_ne_braces (n : Node) : Setting.below .elsewhere n ≠ .braces :=
  Setting.below_ne_braces (Or.inl (by simp))

theorem Padded.significant_of_below (h : Padded s n m) (hb : s.below n = .elsewhere) :
    List.Forall₂ (Padded .elsewhere) n.significant m.significant := by
  have hall := h.significant
  rw [hb] at hall
  exact hall.imp fun _ _ hcd => hcd.padded (by simp)

theorem Padded.localName? (h : Padded s n m) (hs : s.below n ≠ .braces) :
    Option.Rel (Padded (s.below n)) n.localName? m.localName? := by
  have halias := h.child? hs "alias"
  have hname := h.child? hs "name"
  rw [Node.localName?, Node.localName?]
  revert halias
  generalize n.child? "alias" = a, m.child? "alias" = b
  intro halias
  cases halias with
  | none => exact hname
  | some hcd => exact .some hcd

/-- Names are bound at nodes of the same text. -/
theorem Padded.boundNames (h : Padded s n m) :
    Alike (List.Forall₂ fun c d : Node => d.text src = c.text src) (n.boundNames src)
      (m.boundNames src) := by
  rw [Node.boundNames, Node.boundNames, h.kind, h.unknown]
  split
  · exact .ok (.cons (h.text src) .nil)
  · split
    · next hk =>
      have hb : s.below n = .elsewhere := by simp_all [Setting.below]
      refine Alike.mapM (h.significant_of_below hb) ?_
      intro c d hcd
      rw [hcd.kind, hcd.unknown]
      split
      · exact .ok (hcd.text src)
      · exact .error _
    · split
      · next hk =>
        have hb : s.below n = .elsewhere := by simp_all [Setting.below]
        refine Alike.mapM (h.significant_of_below hb) ?_
        intro c d hcd
        have hname := hcd.localName? (below_elsewhere_ne_braces c)
        rw [hcd.kind, hcd.unknown]
        split
        · revert hname
          generalize c.localName? = a, d.localName? = b
          intro hname
          cases hname with
          | none => exact .error _
          | some hr => exact .ok (hr.text src)
        · exact .error _
      · exact .error _

theorem Padded.importedNames (h : Padded s n m) (hk : n.kind = "import_statement") :
    Alike (List.Forall₂ fun c d : Node => d.text src = c.text src) (n.importedNames src)
      (m.importedNames src) := by
  have hclauses : List.Forall₂ (Padded .elsewhere)
      (n.significant.filter (·.kind == "import_clause"))
      (m.significant.filter (·.kind == "import_clause")) := by
    refine List.rel_filter ?_ (h.significant_of_below (by simp [Setting.below, hk]))
    intro c d hcd
    simp [hcd.kind]
  have hparts : List.Forall₂ (fun c d => ∃ t, Padded t c d)
      ((n.significant.filter (·.kind == "import_clause")).flatMap Node.significant)
      ((m.significant.filter (·.kind == "import_clause")).flatMap Node.significant) := by
    refine List.rel_flatMap hclauses ?_
    intro c d hcd
    exact hcd.significant.imp fun a b hab => ⟨_, hab.padded (below_elsewhere_ne_braces c)⟩
  have hbound : ∀ c d : Node, (∃ t, Padded t c d) →
      Alike (List.Forall₂ fun c d : Node => d.text src = c.text src) (c.boundNames src)
        (d.boundNames src) := by
    rintro c d ⟨t, hcd⟩
    exact hcd.boundNames src
  refine Alike.bind (Alike.mapM hparts hbound) ?_
  intro cs ds hcds
  exact .ok (List.rel_flatten hcds)

theorem Padded.importedModule? (h : Padded s n m) (hk : n.kind = "import_statement") :
    m.importedModule? src = n.importedModule? src := by
  have hsource := h.child? (Setting.below_ne_braces (Or.inr (by simp [hk]))) "source"
  rw [Node.importedModule?, Node.importedModule?]
  revert hsource
  generalize n.child? "source" = a, m.child? "source" = b
  intro hsource
  cases hsource with
  | none => rfl
  | some hcd => simp only [hcd.literalValue]

theorem Padded.addImports (h : Padded s n m) (hk : n.kind = "import_statement")
    (table : ImportTable) : m.addImports src table = n.addImports src table := by
  rw [Node.addImports, Node.addImports, h.importedModule? src hk]
  congr 1
  funext origin
  cases origin with
  | none => rfl
  | some origin =>
    refine (Alike.bind (h.importedNames src hk) ?_).eq.symm
    intro cs ds hcds
    refine .ok ?_
    induction hcds generalizing table with
    | nil => rfl
    | cons hcd _ ih =>
      rw [List.foldl_cons, List.foldl_cons, hcd]
      exact ih _

theorem Padded.importTable (h : Padded .elsewhere n m) : m.importTable src = n.importTable src := by
  have hstatements : List.Forall₂
      (fun c d => c.kind = "import_statement" ∧ Padded (Setting.below .elsewhere n) c d)
      (n.namedChildren.filter (·.kind == "import_statement"))
      (m.namedChildren.filter (·.kind == "import_statement")) := by
    refine (List.forall₂_and_left _ _).2 ⟨fun c hc => by simpa using (List.mem_filter.1 hc).2, ?_⟩
    rw [namedChildren, namedChildren, List.filter_filter, List.filter_filter]
    exact h.filter_children (below_elsewhere_ne_braces n) (fun d hd => by simp [hd.kind])
      fun c d hcd => by rw [hcd.kind, hcd.named]
  exact (Alike.foldlM hstatements (fun t c d hcd => (hcd.2.addImports src hcd.1 t).symm) _).symm

end Imports

section Search

variable {β : Type} {s : Setting} {n m : Node}

theorem child?_of_comments (h : ∀ c ∈ n.children, c.IsComment) (role : String) :
    n.child? role = none := by
  refine List.find?_eq_none.2 ?_
  intro c hc
  simp [(h c hc).role]

/-- Looking at the nodes of a tree one by one, comments and parentheses go unnoticed. -/
structure Ignores (g : Node → Option β) : Prop where
  padded : ∀ s c d, Padded s c d → g d = g c
  quiet : ∀ d : Node, d.isFaulty = false →
    (∀ c ∈ d.children, c.IsComment) ∨ d.kind = "parenthesized_expression" → g d = none

theorem IsComment.isFaulty (h : n.IsComment) : n.isFaulty = false := by
  simp [Node.isFaulty, h.kind, h.missing]

theorem IsComment.findSome?_nodes {g : Node → Option β} (hg : Ignores g) (h : n.IsComment) :
    n.nodes.findSome? g = none := by
  have hn : g n = none := hg.quiet n h.isFaulty (Or.inl (by simp [h.children]))
  simp [nodes_eq, h.children, hn]

theorem IsToken.findSome?_nodes {g : Node → Option β} (hg : Ignores g) (h : n.IsToken) :
    n.nodes.findSome? g = none := by
  rw [nodes_eq, List.findSome?_cons, hg.quiet n h.sound (Or.inl h.children)]
  refine List.findSome?_eq_none_iff.2 ?_
  intro d hd
  obtain ⟨c, hc, hd⟩ := List.mem_flatMap.1 hd
  exact List.findSome?_eq_none_iff.1 ((h.children c hc).findSome?_nodes hg) d hd

theorem Wrapped.findSome?_nodes {g : Node → Option β} (hg : Ignores g) (h : Wrapped n m) :
    m.nodes.findSome? g = n.nodes.findSome? g := by
  induction h with
  | bare => rfl
  | @parens inner outer before after h kind named missing children others ih =>
    have hothers (cs : List Node) (hcs : ∀ c ∈ cs, c ∈ before ++ after) :
        (cs.flatMap nodes).findSome? g = none := by
      refine List.findSome?_eq_none_iff.2 ?_
      intro d hd
      obtain ⟨c, hc, hd⟩ := List.mem_flatMap.1 hd
      rcases others c (hcs c hc) with hc | hc
      · exact List.findSome?_eq_none_iff.1 (hc.findSome?_nodes hg) d hd
      · exact List.findSome?_eq_none_iff.1 (hc.findSome?_nodes hg) d hd
    have houter : g outer = none :=
      hg.quiet outer (by simp [isFaulty, kind, missing]) (Or.inr kind)
    rw [nodes_eq, List.findSome?_cons, houter, children, List.flatMap_append, List.flatMap_cons,
      List.findSome?_append, List.findSome?_append,
      hothers before fun c hc => List.mem_append_left _ hc,
      hothers after fun c hc => List.mem_append_right _ hc, Option.none_or, Option.or_none, ih]

theorem PaddedAll.findSome?_nodes {g : Node → Option β} (hg : Ignores g) {cs ds : List Node}
    (hc : ∀ c ∈ cs, ∀ d, Padded s c d → d.nodes.findSome? g = c.nodes.findSome? g) :
    PaddedAll s cs ds → (ds.flatMap nodes).findSome? g = (cs.flatMap nodes).findSome? g
  | .nil => rfl
  | .comment hd h => by
    rw [List.flatMap_cons, List.findSome?_append, hd.findSome?_nodes hg, Option.none_or]
    exact findSome?_nodes hg hc h
  | .child hcd he h => by
    have ih := findSome?_nodes hg (fun c hm => hc c (List.mem_cons_of_mem _ hm)) h
    rw [List.flatMap_cons, List.flatMap_cons, List.findSome?_append, List.findSome?_append, ih]
    congr 1
    rw [← hc _ List.mem_cons_self _ hcd]
    rcases he with rfl | ⟨-, -, hw⟩
    · rfl
    · exact hw.findSome?_nodes hg

theorem Padded.findSome?_nodes {g : Node → Option β} (hg : Ignores g) (h : Padded s n m) :
    m.nodes.findSome? g = n.nodes.findSome? g := by
  induction n using childInduction generalizing s m with
  | _ n ih =>
    rw [nodes_eq, nodes_eq, List.findSome?_cons, List.findSome?_cons, hg.padded s n m h,
      h.children.findSome?_nodes hg fun c hc d hcd => ih c hc hcd]

end Search

section Checks

variable {s : Setting} {n m : Node} (src : Source)

theorem map_find?_eq_findSome? {β : Type} (p : Node → Bool) (f : Node → β) (ns : List Node) :
    (ns.find? p).map f = ns.findSome? fun n => if p n then some (f n) else none := by
  induction ns with
  | nil => rfl
  | cons n ns ih =>
    rw [List.find?_cons, List.findSome?_cons, ← ih]
    cases p n <;> rfl

theorem Padded.isFaulty (h : Padded s n m) : m.isFaulty = n.isFaulty := by
  simp only [Node.isFaulty, h.kind, h.missing]

theorem ignores_faulty :
    Ignores fun n : Node => if n.isFaulty then some (src.position n.start) else none where
  padded s c d h := by rw [h.isFaulty, h.start]
  quiet d hd _ := by simp [hd]

theorem Padded.hasError (h : Padded s n m) : m.hasError = n.hasError := by
  have hfirst := h.findSome?_nodes (ignores_faulty [])
  rw [← map_find?_eq_findSome?, ← map_find?_eq_findSome?] at hfirst
  rw [hasError_eq_any_nodes, hasError_eq_any_nodes, ← List.isSome_find?, ← List.isSome_find?,
    ← Option.isSome_map, hfirst, Option.isSome_map]

theorem Padded.firstError (h : Padded s n m) : m.firstError src = n.firstError src := by
  rw [firstError_eq, firstError_eq, map_find?_eq_findSome?, map_find?_eq_findSome?,
    h.findSome?_nodes (ignores_faulty src)]

theorem Padded.strictText (h : Padded s n m) : m.strictText src = n.strictText src := by
  rw [h.eq_with]
  rfl

theorem tagName_of_rel {a b : Option Node} (h : Option.Rel (Padded .elsewhere) a b) :
    tagName src b = tagName src a := by
  cases h with
  | none => rfl
  | @some a b hab =>
    have hname := hab.child? (below_elsewhere_ne_braces a) "name"
    simp only [tagName, Option.bind_some]
    revert hname
    generalize a.child? "name" = c, b.child? "name" = d
    intro hname
    cases hname with
    | none => rfl
    | some hcd => simp only [hcd.strictText]

theorem Padded.tagName (h : Padded s n m) (hk : n.kind = "jsx_element") (role : String) :
    tagName src (m.child? role) = tagName src (n.child? role) := by
  have hb : s.below n = .elsewhere := by simp [Setting.below, hk]
  have hrel := h.child? (by simp [hb]) role
  rw [hb] at hrel
  exact tagName_of_rel src hrel

theorem ignores_imbalance : Ignores (imbalance? src) where
  padded s c d h := by
    rw [imbalance?, imbalance?, h.kind]
    by_cases hk : c.kind = "jsx_element"
    · simp only [openName, closeName, h.tagName src hk, h.start]
    · rw [beq_false_of_ne hk]
      rfl
  quiet d _ hd := by
    rcases hd with hd | hd
    · simp [imbalance?, openName, closeName, Node.tagName, child?_of_comments hd]
    · simp [imbalance?, hd]

theorem unbalanced?_eq_findSome? (root : Node) :
    root.unbalanced? src = root.nodes.findSome? (imbalance? src) := by
  rw [Node.unbalanced?, searchStack_all]
  generalize root.nodes = ns
  induction ns with
  | nil => rfl
  | cons n ns ih =>
    rw [List.find?_cons, List.findSome?_cons, isUnbalanced]
    cases h : n.imbalance? src with
    | none => exact ih
    | some failure => exact h

theorem Padded.unbalanced? (h : Padded s n m) : m.unbalanced? src = n.unbalanced? src := by
  rw [unbalanced?_eq_findSome?, unbalanced?_eq_findSome?, h.findSome?_nodes (ignores_imbalance src)]

/-- The checks refuse a tree for the same reason, or accept both. -/
theorem Padded.check (h : Padded s n m) :
    (n.check src = .ok n ∧ m.check src = .ok m) ∨
      ∃ failure, n.check src = .error failure ∧ m.check src = .error failure := by
  unfold Node.check
  rw [h.hasError, h.unbalanced? src, h.firstError src]
  split
  · exact Or.inr ⟨_, rfl, rfl⟩
  · split
    · exact Or.inr ⟨_, rfl, rfl⟩
    · exact Or.inl ⟨rfl, rfl⟩

end Checks

end Node

/-- What is recorded of a tag: its name and its use. -/
def TagUse.entry (u : TagUse) : String × Instance := (u.name, u.use)

/-- What a node adds to the uses below it. -/
def Reading.listed (below : List (Except Fault (String × Instance))) :
    Reading → List (Except Fault (String × Instance))
  | plain => below
  | rejected => []
  | accepted u => .ok u.entry :: below
  | faulty fault => [.error fault]

namespace Node

section Scans

variable (config : ScanConfig) (imports : ImportTable) (f : SourceFile) {s : Setting} {n m : Node}

/-- The uses that are read off a tree, without the tags they come from. -/
def listing (n : Node) : List (Except Fault (String × Instance)) :=
  (n.readings config imports f).map (Except.map TagUse.entry)

theorem listed_reading (n : Node) (below : List (Except Fault (String × Instance))) :
    (n.reading config imports f).listed below =
      if n.isTag then
        match n.child? "name" with
        | none => below
        | some name =>
          match n.acceptedUse? config imports f name with
          | .error fault => [.error fault]
          | .ok none => []
          | .ok (some u) => .ok u :: below
      else below := by
  unfold reading
  split
  · split
    · next hn => simp only [hn, Reading.listed]
    · next name hn =>
      split
      · next fault hq => simp only [hn, acceptedUse?, hq, bind, Except.bind, Reading.listed]
      · next qualified hq =>
        split
        · next fault ha =>
          simp only [hn, acceptedUse?, hq, ha, bind, Except.bind, Reading.listed]
        · next ha =>
          simp only [hn, acceptedUse?, hq, ha, bind, Except.bind, pure, Except.pure, Reading.listed,
            Bool.false_eq_true, if_false]
        · next ha =>
          split
          · next fault hu =>
            simp only [hn, acceptedUse?, hq, ha, hu, bind, Except.bind, if_true, Reading.listed]
          · next use hu =>
            simp only [hn, acceptedUse?, hq, ha, hu, bind, Except.bind, if_true, pure, Except.pure,
              Reading.listed, TagUse.entry]
  · rfl

theorem listing_eq (n : Node) : n.listing config imports f =
    (n.reading config imports f).listed (n.children.flatMap (listing config imports f)) := by
  have hbelow : (readingsAll config imports f n.children).map (Except.map TagUse.entry) =
      n.children.flatMap (listing config imports f) := by
    rw [readingsAll_eq_flatMap, List.map_flatMap]
    rfl
  rw [listing, readings_eq, ← hbelow]
  cases n.reading config imports f <;> rfl

theorem IsComment.listing (h : n.IsComment) : n.listing config imports f = [] := by
  rw [listing_eq, listed_reading, child?_of_comments (by simp [h.children]), h.children]
  simp

theorem IsToken.listing (h : n.IsToken) : n.listing config imports f = [] := by
  have hbelow : n.children.flatMap (Node.listing config imports f) = [] :=
    List.flatMap_eq_nil_iff.2 fun c hc => (h.children c hc).listing config imports f
  rw [listing_eq, listed_reading, child?_of_comments h.children, hbelow]
  simp

theorem Wrapped.listing (h : Wrapped n m) :
    m.listing config imports f = n.listing config imports f := by
  induction h with
  | bare => rfl
  | @parens inner outer before after h kind named missing children others ih =>
    have hothers (cs : List Node) (hcs : ∀ c ∈ cs, c ∈ before ++ after) :
        cs.flatMap (Node.listing config imports f) = [] := by
      refine List.flatMap_eq_nil_iff.2 ?_
      intro c hc
      rcases others c (hcs c hc) with hc | hc
      · exact hc.listing config imports f
      · exact hc.listing config imports f
    have htag : outer.isTag = false := by simp [Node.isTag, tagKinds, kind]
    rw [listing_eq, listed_reading, htag, children, List.flatMap_append, List.flatMap_cons,
      hothers before fun c hc => List.mem_append_left _ hc,
      hothers after fun c hc => List.mem_append_right _ hc, ih]
    simp

theorem PaddedAll.listing {cs ds : List Node}
    (hc : ∀ c ∈ cs, ∀ d, Padded s c d → d.listing config imports f = c.listing config imports f) :
    PaddedAll s cs ds → ds.flatMap (Node.listing config imports f) =
      cs.flatMap (Node.listing config imports f)
  | .nil => rfl
  | .comment hd h => by
    rw [List.flatMap_cons, hd.listing, List.nil_append]
    exact listing hc h
  | .child hcd he h => by
    rw [List.flatMap_cons, List.flatMap_cons, ← hc _ List.mem_cons_self _ hcd,
      listing (fun c hm => hc c (List.mem_cons_of_mem _ hm)) h]
    congr 1
    rcases he with rfl | ⟨-, -, hw⟩
    · rfl
    · exact hw.listing config imports f

theorem Padded.listing (h : Padded s n m) :
    m.listing config imports f = n.listing config imports f := by
  induction n using childInduction generalizing s m with
  | _ n ih =>
    -- what is below a tag is listed after it, or not at all, but in both trees alike
    have hbelow := h.children.listing config imports f fun c hc d hcd => ih c hc hcd
    rw [listing_eq, listing_eq, listed_reading, listed_reading, h.isTag, hbelow]
    split
    · next ht =>
      have hname := h.child? (by simp [below_of_isTag ht]) "name"
      revert hname
      generalize n.child? "name" = a, m.child? "name" = b
      intro hname
      cases hname with
      | none => rfl
      | some hcd => simp only [h.acceptedUse? ht config imports f hcd]
    · rfl

end Scans

end Node

theorem Report.record_eq_foldl (r : Report) (us : List TagUse) :
    r.record us = (us.map TagUse.entry).foldl (fun r e => r.add e.1 e.2) r := by
  rw [record, List.foldl_map]
  rfl

/-- What is recorded, and what stops the scan, does not depend on the tags themselves. -/
theorem usesBefore_of_listing {rs rs' : List (Except Fault TagUse)}
    (h : rs.map (Except.map TagUse.entry) = rs'.map (Except.map TagUse.entry)) :
    (usesBefore rs).map TagUse.entry = (usesBefore rs').map TagUse.entry ∧
      firstFault? rs = firstFault? rs' := by
  induction rs generalizing rs' with
  | nil =>
    obtain rfl : rs' = [] := by simpa using h.symm
    exact ⟨rfl, rfl⟩
  | cons x rs ih =>
    obtain ⟨y, ys, rfl, hy, hys⟩ := List.map_eq_cons_iff.1 h.symm
    obtain ⟨hbefore, hfault⟩ := ih hys.symm
    cases x with
    | error fault =>
      cases y with
      | error fault' =>
        obtain rfl : fault' = fault := Except.error.inj hy
        exact ⟨rfl, rfl⟩
      | ok v => cases hy
    | ok u =>
      cases y with
      | error fault' => cases hy
      | ok v =>
        have huv : v.entry = u.entry := Except.ok.inj hy
        exact ⟨by simp only [usesBefore, List.map_cons, huv, hbefore], hfault⟩

theorem Node.Padded.scanTree {n m : Node} (h : Padded .elsewhere n m) (config : ScanConfig)
    (f : SourceFile) (r : Report) : m.scanTree config f r = n.scanTree config f r := by
  cases hi : n.importTable f.source with
  | error fault => simp only [Node.scanTree, h.importTable, hi]
  | ok imports =>
    have hm : m.importTable f.source = .ok imports := (h.importTable f.source).trans hi
    obtain ⟨hbefore, hfault⟩ := usesBefore_of_listing (h.listing config imports f)
    rw [scanTree_eq config imports f hi, scanTree_eq config imports f hm, Report.record_eq_foldl,
      Report.record_eq_foldl, hbefore, hfault]

/-- Comments anywhere in a tree, and parentheses around the values of attributes, change neither the
imports, nor what the checks say, nor what a scan records or how it ends. -/
theorem scan_ignores_trivia {n m : Node} (h : Node.Padded .elsewhere n m) (config : ScanConfig)
    (f : SourceFile) (r : Report) :
    m.importTable f.source = n.importTable f.source ∧
    (m.check f.source).map (fun _ => ()) = (n.check f.source).map (fun _ => ()) ∧
    scan config f (.ok m) r = scan config f (.ok n) r := by
  refine ⟨h.importTable f.source, ?_, ?_⟩
  · rcases h.check f.source with ⟨hn, hm⟩ | ⟨failure, hn, hm⟩
    · rw [hn, hm]
      rfl
    · rw [hn, hm]
  · unfold scan
    simp only [Except.bind]
    rcases h.check f.source with ⟨hn, hm⟩ | ⟨failure, hn, hm⟩
    · rw [hn, hm]
      exact h.scanTree config f r
    · rw [hn, hm]

namespace Sample

/-- The text `<A/**/b={(1)}/>`. -/
def remarked : Source :=
  [0x3C, 0x41, 0x2F, 0x2A, 0x2A, 0x2F, 0x62, 0x3D, 0x7B, 0x28, 0x31, 0x29, 0x7D, 0x2F, 0x3E]

/-- A tree of that text, given the children of the tag besides its name and those of the braces. -/
def remarkedRoot (remarks inner : List Node) : Node :=
  { kind := "program", start := 0, stop := 15
    children := [
      { kind := "jsx_self_closing_element", start := 0, stop := 15
        children := { kind := "identifier", start := 1, stop := 2, role := some "name" } :: remarks ++ [
          { kind := "jsx_attribute", start := 6, stop := 13, role := some "attribute"
            children := [
              { kind := "property_identifier", start := 6, stop := 7 },
              { kind := "jsx_expression", start := 8, stop := 13, children := inner }] }] }] }

def remark : Node := { kind := "comment", start := 2, stop := 6 }

def one : Node := { kind := "number", start := 10, stop := 11 }

/-- The number in its parentheses. -/
def oneInParens : Node :=
  { kind := "parenthesized_expression", start := 9, stop := 12
    children := [
      { kind := "(", start := 9, stop := 10, named := false }, one,
      { kind := ")", start := 11, stop := 12, named := false }] }

theorem wrapped_one : Node.Wrapped one oneInParens := by
  have hchildren : oneInParens.children =
      [{ kind := "(", start := 9, stop := 10, named := false }] ++ one ::
        [{ kind := ")", start := 11, stop := 12, named := false }] := rfl
  refine .parens .bare rfl rfl rfl hchildren ?_
  intro c hc
  rcases List.mem_pair.1 hc with rfl | rfl <;> exact Or.inr ⟨rfl, by decide, by simp⟩

theorem padded_leaf {s : Node.Setting} {n : Node} (h : n.children = []) : Node.Padded s n n := by
  have hn : n = { n with children := [] } := by
    cases n
    rw [← h]
  rw [hn]
  exact .node .nil

theorem padded_remarked :
    Node.Padded .elsewhere (remarkedRoot [] [one]) (remarkedRoot [remark] [oneInParens]) := by
  have hbraces : Node.PaddedAll .braces [one] [oneInParens] :=
    .child (padded_leaf rfl) (Or.inr ⟨rfl, by decide, wrapped_one⟩) .nil
  refine .node (.child (.node ?_) (Or.inl rfl) .nil)
  refine .child (padded_leaf rfl) (Or.inl rfl) ?_
  refine .comment ⟨rfl, rfl, rfl, rfl, rfl⟩ ?_
  refine .child (.node ?_) (Or.inl rfl) .nil
  exact .child (padded_leaf rfl) (Or.inl rfl) (.child (.node hbraces) (Or.inl rfl) .nil)

end Sample

/-- The comment and the parentheses of `<A/**/b={(1)}/>` are not noticed. -/
theorem scan_ignores_trivia_remarked :
    Node.Padded .elsewhere (Sample.remarkedRoot [] [Sample.one])
      (Sample.remarkedRoot [Sample.remark] [Sample.oneInParens]) ∧
    scan {} ⟨"a.jsx", Sample.remarked⟩
        (.ok (Sample.remarkedRoot [Sample.remark] [Sample.oneInParens])) [] =
      scan {} ⟨"a.jsx", Sample.remarked⟩ (.ok (Sample.remarkedRoot [] [Sample.one])) [] :=
  ⟨Sample.padded_remarked,
    (scan_ignores_trivia Sample.padded_remarked {} ⟨"a.jsx", Sample.remarked⟩ []).2.2⟩

end MarkupCensus
