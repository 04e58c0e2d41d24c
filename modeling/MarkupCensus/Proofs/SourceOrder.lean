import MarkupCensus.Proofs.History
import MarkupCensus.Proofs.Locations

namespace MarkupCensus

namespace Node

theorem location_addAttribute {src : Source} {use use' : Instance} {n : Node}
    (h : addAttribute src use n = .ok use') : use'.location = use.location := by
  unfold addAttribute at h
  split at h
  · obtain ⟨v, _, h⟩ := exists_ok_of_bind_ok h
    rw [← Except.ok.inj h]
  · split at h
    · rw [← Except.ok.inj h]
    · cases h

theorem location_foldlM_addAttribute {src : Source} {ns : List Node} {use use' : Instance}
    (h : ns.foldlM (addAttribute src) use = .ok use') : use'.location = use.location := by
  induction ns generalizing use with
  | nil => rw [← Except.ok.inj h]
  | cons n ns ih =>
    rw [List.foldlM_cons] at h
    obtain ⟨next, hn, h⟩ := exists_ok_of_bind_ok h
    rw [ih h, location_addAttribute hn]

end Node

/-- Where the name of a recorded tag starts. -/
def TagUse.offset (u : TagUse) : Nat := ((u.tag.child? "name").getD u.tag).start

theorem TagUse.location_eq (u : TagUse) :
    u.use.location = u.file.source.location u.file.file u.offset := by
  obtain ⟨name, hname, -⟩ := u.resolved
  have hread := u.extracted
  rw [Node.use, hname] at hread
  rw [Node.location_foldlM_addAttribute hread, offset, hname]
  rfl

namespace Node

/-- No tag is met in the tree. -/
def IsTagless (n : Node) : Prop := ∀ m ∈ n.nodes, m.isTag = false

/-- How a node lies over a source. It starts where a character does, and its children lie inside it
one after another. A tag starts before its name, and up to the end of the name there is no other tag
in it. -/
structure IsLaidOut (src : Source) (n : Node) : Prop where
  boundary : src.isBoundary n.start
  start_le_stop : n.start ≤ n.stop
  stop_le : n.stop ≤ src.length
  inside : ∀ c ∈ n.children, n.start ≤ c.start ∧ c.stop ≤ n.stop
  ordered : n.children.Pairwise fun c d => c.stop ≤ d.start
  name_later : n.isTag → ∀ name ∈ n.child? "name", n.start < name.start
  name_tagless : n.isTag → ∀ name ∈ n.child? "name", name.IsTagless
  /-- Only tokens stand before the name. -/
  name_first : n.isTag → ∀ c ∈ n.children.takeWhile (·.role != some "name"), c.IsTagless

instance (n : Node) : Decidable n.IsTagless :=
  inferInstanceAs (Decidable (∀ m ∈ n.nodes, m.isTag = false))

instance (src : Source) (n : Node) : Decidable (n.IsLaidOut src) :=
  decidable_of_iff
    ((src.isBoundary n.start ∧ n.start ≤ n.stop ∧ n.stop ≤ src.length ∧
        (∀ c ∈ n.children, n.start ≤ c.start ∧ c.stop ≤ n.stop) ∧
        n.children.Pairwise fun c d => c.stop ≤ d.start) ∧
      (n.isTag → ∀ name ∈ n.child? "name", n.start < name.start) ∧
      (n.isTag → ∀ name ∈ n.child? "name", name.IsTagless) ∧
      (n.isTag → ∀ c ∈ n.children.takeWhile (·.role != some "name"), c.IsTagless))
    ⟨fun ⟨⟨h₁, h₂, h₃, h₄, h₅⟩, h₆, h₇, h₈⟩ => ⟨h₁, h₂, h₃, h₄, h₅, h₆, h₇, h₈⟩,
      fun h => ⟨⟨h.boundary, h.start_le_stop, h.stop_le, h.inside, h.ordered⟩, h.name_later,
        h.name_tagless, h.name_first⟩⟩

section Order

variable (config : ScanConfig) (imports : ImportTable) (f : SourceFile)

/-- The uses read off a tree, those after a fault included. -/
def usesIn (n : Node) : List TagUse := (n.readings config imports f).filterMap Except.toOption

theorem usesIn_eq (n : Node) : n.usesIn config imports f =
    match n.reading config imports f with
    | .plain => n.children.flatMap (usesIn config imports f)
    | .accepted u => u :: n.children.flatMap (usesIn config imports f)
    | _ => [] := by
  have hall : (readingsAll config imports f n.children).filterMap Except.toOption =
      n.children.flatMap (usesIn config imports f) := by
    rw [readingsAll_eq_flatMap, List.filterMap_flatMap]
    rfl
  rw [usesIn, readings_eq]
  cases n.reading config imports f with
  | plain => exact hall
  | rejected => rfl
  | accepted u => exact congrArg (u :: ·) hall
  | faulty fault => rfl

variable {config imports f} {n : Node}

theorem exists_reading_of_mem_usesIn {u : TagUse} (h : u ∈ n.usesIn config imports f) :
    ∃ m ∈ n.nodes, m.reading config imports f = .accepted u := by
  obtain ⟨x, hx, hu⟩ := List.mem_filterMap.1 h
  cases x with
  | error fault => simp [Except.toOption] at hu
  | ok v =>
    obtain rfl : v = u := by simpa [Except.toOption] using hu
    exact exists_reading_of_mem_readings hx

theorem exists_name_of_mem_usesIn {u : TagUse} (h : u ∈ n.usesIn config imports f) :
    u.file = f ∧ ∃ name ∈ n.nodes, u.offset = name.start := by
  obtain ⟨m, hm, hr⟩ := exists_reading_of_mem_usesIn h
  obtain ⟨_, hfile, rfl, _⟩ := of_reading_accepted hr
  obtain ⟨name, hname, _⟩ := u.resolved
  refine ⟨hfile, name, child_mem_nodes hm (List.mem_of_find?_eq_some hname), ?_⟩
  rw [TagUse.offset, hname, Option.getD_some]

theorem usesIn_of_isTagless (h : n.IsTagless) : n.usesIn config imports f = [] := by
  refine List.eq_nil_iff_forall_not_mem.2 ?_
  intro u hu
  obtain ⟨m, hm, hr⟩ := exists_reading_of_mem_usesIn hu
  have ht := (of_reading_accepted hr).1
  simp [h m hm] at ht

/-- The uses below a node of which all children are in order lie inside it, in order. -/
theorem usesIn_children_ordered {src : Source} (h : n.IsLaidOut src)
    (hin : ∀ c ∈ n.children, ∀ u ∈ c.usesIn config imports f,
      c.start < u.offset ∧ u.offset ≤ c.stop)
    (hord : ∀ c ∈ n.children,
      (c.usesIn config imports f).Pairwise fun u v => u.offset < v.offset) :
    (∀ u ∈ n.children.flatMap (usesIn config imports f), n.start < u.offset ∧ u.offset ≤ n.stop) ∧
    (n.children.flatMap (usesIn config imports f)).Pairwise fun u v => u.offset < v.offset := by
  constructor
  · intro u hu
    obtain ⟨c, hc, hu⟩ := List.mem_flatMap.1 hu
    have hcu := hin c hc u hu
    have hnc := h.inside c hc
    omega
  · refine List.pairwise_flatMap.2 ⟨hord, ?_⟩
    refine h.ordered.imp_of_mem ?_
    intro c d hc hd hcd u hu v hv
    have hcu := hin c hc u hu
    have hdv := hin d hd v hv
    omega

/-- Everything recorded inside a tag comes after its name. -/
theorem name_before_usesIn_children {src : Source} (h : n.IsLaidOut src) (ht : n.isTag = true)
    {name : Node} (hn : n.child? "name" = some name) (hname : name.start ≤ name.stop)
    (hin : ∀ c ∈ n.children, ∀ u ∈ c.usesIn config imports f, c.start < u.offset) :
    ∀ u ∈ n.children.flatMap (usesIn config imports f), name.start < u.offset := by
  obtain ⟨hrole, before, after, hsplit, hbefore⟩ := List.find?_eq_some_iff_append.1 hn
  have htake : n.children.takeWhile (·.role != some "name") = before := by
    rw [hsplit, List.takeWhile_append_of_pos (by simpa using hbefore)]
    simp [show name.role = some "name" by simpa using hrole]
  have hord := h.ordered
  rw [hsplit, List.pairwise_append, List.pairwise_cons] at hord
  intro u hu
  obtain ⟨c, hc, hu⟩ := List.mem_flatMap.1 hu
  have hcu := hin c hc u hu
  rw [hsplit, List.mem_append, List.mem_cons] at hc
  rcases hc with hc | rfl | hc
  · rw [usesIn_of_isTagless (h.name_first ht c (htake ▸ hc))] at hu
    cases hu
  · rw [usesIn_of_isTagless (h.name_tagless ht c hn)] at hu
    cases hu
  · have hafter := hord.2.1.1 c hc
    omega

variable (config imports f) in
/-- The names of the recorded tags of a tree lie inside it, and pre-order is their order. -/
theorem usesIn_ordered {src : Source} (h : ∀ m ∈ n.nodes, m.IsLaidOut src) :
    (∀ u ∈ n.usesIn config imports f, n.start < u.offset ∧ u.offset ≤ n.stop) ∧
    (n.usesIn config imports f).Pairwise fun u v => u.offset < v.offset := by
  induction n using childInduction with
  | _ n ih =>
    have hn := h n n.self_mem_nodes
    have hc : ∀ c ∈ n.children, ∀ m ∈ c.nodes, m.IsLaidOut src :=
      fun c hc m hm => h m (mem_nodes_of_child hc hm)
    have hbelow := usesIn_children_ordered hn (fun c hm => (ih c hm (hc c hm)).1)
      fun c hm => (ih c hm (hc c hm)).2
    rw [usesIn_eq]
    cases hr : n.reading config imports f with
    | plain => exact hbelow
    | rejected => simp
    | faulty fault => simp
    | accepted u =>
      obtain ⟨ht, _, rfl, _⟩ := of_reading_accepted hr
      obtain ⟨name, hname, _⟩ := u.resolved
      have hmem : name ∈ u.tag.children := List.mem_of_find?_eq_some hname
      have hlaid := hc name hmem name name.self_mem_nodes
      have hoffset : u.offset = name.start := by rw [TagUse.offset, hname, Option.getD_some]
      have hlater := hn.name_later ht name hname
      have hinside := hn.inside name hmem
      have hstart := hlaid.start_le_stop
      have hafter := name_before_usesIn_children hn ht hname hstart
        fun c hm v hv => ((ih c hm (hc c hm)).1 v hv).1
      constructor
      · intro v hv
        rcases List.mem_cons.1 hv with rfl | hv
        · omega
        · exact hbelow.1 v hv
      · refine List.pairwise_cons.2 ⟨?_, hbelow.2⟩
        intro v hv
        rw [hoffset]
        exact hafter v hv

end Order

end Node

theorem recordedUses_sublist_usesIn (config : ScanConfig) (f : SourceFile) (root : Node) :
    ∃ imports,
      (recordedUses config f (.ok root)).Sublist (root.usesIn config imports f) := by
  unfold recordedUses
  cases hc : (Except.ok root : Except ParseFailure Node).bind (·.check f.source) with
  | error failure => exact ⟨[], List.nil_sublist _⟩
  | ok checked =>
    obtain rfl : root = checked := Except.ok.inj (eq_ok_of_check_eq_ok hc)
    cases hi : root.importTable f.source with
    | error fault => exact ⟨[], by simp [hi]⟩
    | ok imports =>
      refine ⟨imports, ?_⟩
      simp only [hi]
      exact usesBefore_sublist _

/-- The locations of the uses of a tree increase with their offsets. -/
theorem Node.usesIn_locations_increase (config : ScanConfig) (imports : ImportTable)
    {f : SourceFile} {root : Node} (h : ∀ n ∈ root.nodes, n.IsLaidOut f.source) :
    ((root.usesIn config imports f).map (·.use.location)).Pairwise Location.Before := by
  obtain ⟨hin, hord⟩ := usesIn_ordered config imports f h
  have hlength := (h root root.self_mem_nodes).stop_le
  refine List.pairwise_map.2 (hord.imp_of_mem ?_)
  intro u v hu hv huv
  obtain ⟨hfu, name, hname, hoffset⟩ := exists_name_of_mem_usesIn hu
  obtain ⟨hfv, _⟩ := exists_name_of_mem_usesIn hv
  have hvin := hin v hv
  rw [u.location_eq, v.location_eq, hfu, hfv]
  exact Source.location_before (hoffset ▸ (h name hname).boundary) huv (by omega) f.file

/-- One scan records uses in the order of the source: each is located before the next. So no two of
them share a location, and what is added under any one name is in source order. -/
theorem scan_locations_increase (config : ScanConfig) (f : SourceFile) {root : Node}
    (h : ∀ n ∈ root.nodes, n.IsLaidOut f.source) (r : Report) :
    (scan config f (.ok root) r).1 = r.record (recordedUses config f (.ok root)) ∧
    ((recordedUses config f (.ok root)).map (·.use.location)).Pairwise Location.Before ∧
    ((recordedUses config f (.ok root)).map (·.use.location)).Nodup ∧
    ∀ path, ∃ added,
      (scan config f (.ok root) r).1.instancesAt path = r.instancesAt path ++ added ∧
      (added.map Instance.location).Pairwise Location.Before := by
  obtain ⟨imports, hsub⟩ := recordedUses_sublist_usesIn config f root
  have hscan : (scan config f (.ok root) r).1 = r.record (recordedUses config f (.ok root)) := by
    rw [scan_eq_record]
  have hlocations := (Node.usesIn_locations_increase config imports h).sublist
    (hsub.map fun u => u.use.location)
  refine ⟨hscan, hlocations, hlocations.imp Location.Before.ne, ?_⟩
  intro path
  refine ⟨_, by rw [hscan, Report.instancesAt_record], ?_⟩
  rw [List.map_map]
  exact hlocations.sublist (List.filter_sublist.map fun u : TagUse => u.use.location)

namespace Sample

/-- The text `/*é*/<A {...<B/>}/>;` and, on the next line, `<C/>`. -/
def nested : Source :=
  [0x2F, 0x2A, 0xC3, 0xA9, 0x2A, 0x2F, 0x3C, 0x41, 0x20, 0x7B, 0x2E, 0x2E, 0x2E, 0x3C, 0x42, 0x2F,
   0x3E, 0x7D, 0x2F, 0x3E, 0x3B, 0x0A, 0x3C, 0x43, 0x2F, 0x3E]

def nestedFile : SourceFile := ⟨"nested.jsx", nested⟩

/-- The attribute that spreads `<B/>`. -/
def nestedSpread : Node :=
  { kind := "jsx_expression", start := 9, stop := 18, role := some "attribute"
    children := [{ kind := "spread_element", start := 10, stop := 17
                   children := [tag "identifier" 14 15] }] }

def nestedTag : Node :=
  { kind := "jsx_self_closing_element", start := 6, stop := 20
    children := [{ kind := "<", start := 6, stop := 7, named := false }, name "identifier" 7 8,
      nestedSpread] }

def nestedRoot : Node :=
  { kind := "program", start := 0, stop := 26
    children := [{ kind := "comment", start := 0, stop := 6 }, nestedTag, tag "identifier" 23 24] }

theorem nestedRoot_isLaidOut : ∀ n ∈ nestedRoot.nodes, n.IsLaidOut nested := by decide

theorem qualifiedName_identifier (src : Source) (start stop : Nat) :
    (name "identifier" start stop).qualifiedName src =
      .ok (String.ofList ((name "identifier" start stop).text src)) := by
  rw [Node.qualifiedName]
  rfl

theorem accepts_nested : ∀ start ∈ [7, 14, 23], ScanConfig.accepts {} []
    (String.ofList ((name "identifier" start (start + 1)).text nested)) = .ok true := by
  simp only [List.forall_mem_cons, List.not_mem_nil, false_implies, implies_true, and_true]
  refine ⟨?_, ?_, ?_⟩ <;> cbv

theorem check_nestedRoot : nestedRoot.check nested = .ok nestedRoot := by
  refine Node.check_eq_ok rfl ?_
  have hkind : ∀ n ∈ nestedRoot.nodes, (n.kind == "jsx_element") = false := by decide
  intro n hn
  simp [Node.isUnbalanced, Node.imbalance?, hkind n hn]

theorem readings_of_not_isTag {n : Node} (h : n.isTag = false) :
    n.readings {} [] nestedFile = Node.readingsAll {} [] nestedFile n.children := by
  rw [Node.readings_eq, Node.reading_of_not_isTag h]

theorem readings_name (start stop : Nat) :
    (name "identifier" start stop).readings {} [] nestedFile = [] := readings_of_not_isTag rfl

theorem readings_tag {start : Nat} (h : start ∈ [7, 14, 23]) :
    ∃ u, (tag "identifier" start (start + 1)).readings {} [] nestedFile = [.ok u] ∧
      u.use.location = nested.location "nested.jsx" start := by
  have hu : (tag "identifier" start (start + 1)).use nested "nested.jsx" =
      .ok { location := nested.location "nested.jsx" start } := rfl
  have hq := qualifiedName_identifier nested start (start + 1)
  have hr := @Node.reading_of_use {} [] nestedFile _ _ _ _ rfl rfl hq (accepts_nested start h) hu
  refine ⟨⟨nestedFile, _, _, _, ⟨_, rfl, hq⟩, hu⟩, ?_, rfl⟩
  rw [Node.readings_eq, hr]
  simp only [children_tag, Node.readingsAll, readings_name, List.append_nil]

theorem readings_nestedTag :
    ∃ u, nestedTag.readings {} [] nestedFile = .ok u :: nestedSpread.readings {} [] nestedFile ∧
      u.use.location = nested.location "nested.jsx" 7 := by
  have hu : nestedTag.use nested "nested.jsx" =
      .ok { spread := true, location := nested.location "nested.jsx" 7 } := rfl
  have hq := qualifiedName_identifier nested 7 8
  have hr := @Node.reading_of_use {} [] nestedFile _ _ _ _ rfl rfl hq
    (accepts_nested 7 (by simp)) hu
  refine ⟨⟨nestedFile, _, _, _, ⟨_, rfl, hq⟩, hu⟩, ?_, rfl⟩
  rw [Node.readings_eq, hr]
  simp only [nestedTag, Node.readingsAll, readings_name, List.append_nil]
  rw [readings_of_not_isTag rfl]
  rfl

theorem readings_nestedRoot :
    ∃ a b c, nestedRoot.readings {} [] nestedFile = [.ok a, .ok b, .ok c] ∧
      [a, b, c].map (·.use.location) =
        [⟨"nested.jsx", 1, 6⟩, ⟨"nested.jsx", 1, 13⟩, ⟨"nested.jsx", 2, 1⟩] := by
  obtain ⟨a, ha, hla⟩ := readings_nestedTag
  obtain ⟨b, hb, hlb⟩ := @readings_tag 14 (by simp)
  obtain ⟨c, hc, hlc⟩ := @readings_tag 23 (by simp)
  have hs : nestedSpread.readings {} [] nestedFile = [.ok b] := by
    rw [readings_of_not_isTag rfl]
    simp only [nestedSpread, Node.readingsAll]
    rw [readings_of_not_isTag rfl]
    simp only [Node.readingsAll, hb, List.append_nil]
  refine ⟨a, b, c, ?_, ?_⟩
  · rw [readings_of_not_isTag rfl]
    simp only [nestedRoot, Node.readingsAll, ha, hs, hc]
    rw [readings_of_not_isTag rfl]
    rfl
  · simp only [List.map_cons, List.map_nil, hla, hlb, hlc]
    cbv

theorem importTable_nestedRoot : nestedRoot.importTable nested = .ok [] := rfl

theorem recordedUses_nested :
    (recordedUses {} nestedFile (.ok nestedRoot)).map (·.use.location) =
      [⟨"nested.jsx", 1, 6⟩, ⟨"nested.jsx", 1, 13⟩, ⟨"nested.jsx", 2, 1⟩] := by
  obtain ⟨a, b, c, hr, hl⟩ := readings_nestedRoot
  have hrec : recordedUses {} nestedFile (.ok nestedRoot) = [a, b, c] := by
    simp only [recordedUses, Except.bind, nestedFile, check_nestedRoot, importTable_nestedRoot]
    exact congrArg usesBefore hr
  rw [hrec, hl]

end Sample

/-- The tag inside an attribute is recorded after the tag that has the attribute. -/
theorem scan_locations_increase_nested :
    (∀ n ∈ Sample.nestedRoot.nodes, n.IsLaidOut Sample.nested) ∧
    (recordedUses {} Sample.nestedFile (.ok Sample.nestedRoot)).map (·.use.location) =
      [⟨"nested.jsx", 1, 6⟩, ⟨"nested.jsx", 1, 13⟩, ⟨"nested.jsx", 2, 1⟩] ∧
    ((recordedUses {} Sample.nestedFile (.ok Sample.nestedRoot)).map (·.use.location)).Pairwise
      Location.Before :=
  ⟨Sample.nestedRoot_isLaidOut, Sample.recordedUses_nested,
    (scan_locations_increase {} Sample.nestedFile Sample.nestedRoot_isLaidOut []).2.1⟩

end MarkupCensus
