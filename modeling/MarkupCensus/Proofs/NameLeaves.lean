import MarkupCensus.Proofs.Padding

namespace MarkupCensus

namespace Node

/-- The parts that a chain joins by its dot: the object, then the property, as far as they are there. -/
def nameParts (n : Node) : List Node := (n.child? "object").toList ++ (n.child? "property").toList

theorem size_lt_of_mem_nameParts {n c : Node} (h : c ∈ n.nameParts) : c.size < n.size := by
  rcases List.mem_append.1 h with h | h
  · exact size_lt_of_child? (Option.mem_toList.1 h)
  · exact size_lt_of_child? (Option.mem_toList.1 h)

/-- The nodes of a name in the order in which they are read, a chain before its parts. -/
def nameNodes (n : Node) : List Node :=
  if n.isNameChain then n :: n.nameParts.attach.flatMap fun c => c.1.nameNodes else [n]
termination_by n.size
decreasing_by exact size_lt_of_mem_nameParts c.2

/-- Neither an identifier nor a chain of two parts. -/
def isNoName (n : Node) : Bool :=
  !n.isNameLeaf &&
    !(n.isNameChain && (n.child? "object").isSome && (n.child? "property").isSome)

/-- The texts of the identifiers of a name, from left to right. -/
def leafTexts (src : Source) (n : Node) : List String :=
  (n.nameNodes.filter isNameLeaf).map fun leaf => String.ofList (leaf.text src)

section Shapes

variable {src : Source} {n object property : Node}

theorem nameNodes_eq (n : Node) :
    n.nameNodes = if n.isNameChain then n :: n.nameParts.flatMap nameNodes else [n] := by
  have hattach : n.nameParts.attach.flatMap (fun c => c.1.nameNodes) =
      n.nameParts.flatMap nameNodes := by
    rw [List.flatMap_subtype (g := nameNodes) fun _ _ => rfl, List.unattach_attach]
  rw [nameNodes, hattach]

theorem isNameLeaf_of_isNameChain (h : n.isNameChain = true) : n.isNameLeaf = false := by
  simp only [isNameChain, Bool.or_eq_true, beq_iff_eq] at h
  rcases h with hk | hk <;> simp [isNameLeaf, hk]

theorem isNameChain_of_isNameLeaf (h : n.isNameLeaf = true) : n.isNameChain = false := by
  rw [Bool.eq_false_iff]
  intro hchain
  rw [isNameLeaf_of_isNameChain hchain] at h
  cases h

theorem nameNodes_of_not_chain (h : n.isNameChain = false) : n.nameNodes = [n] := by
  rw [nameNodes_eq, h]
  rfl

theorem nameNodes_of_chain (h : n.isNameChain = true) (ho : n.child? "object" = some object)
    (hp : n.child? "property" = some property) :
    n.nameNodes = n :: (object.nameNodes ++ property.nameNodes) := by
  rw [nameNodes_eq, if_pos h, nameParts, ho, hp]
  simp

theorem find?_nameNodes_of_isNoName (h : n.isNoName = true) :
    n.nameNodes.find? isNoName = some n := by
  rw [nameNodes_eq]
  split <;> simp [h]

theorem leafTexts_of_leaf (h : n.isNameLeaf = true) :
    n.leafTexts src = [String.ofList (n.text src)] := by
  rw [leafTexts, nameNodes_of_not_chain (isNameChain_of_isNameLeaf h)]
  simp [h]

theorem leafTexts_of_chain (h : n.isNameChain = true) (ho : n.child? "object" = some object)
    (hp : n.child? "property" = some property) :
    n.leafTexts src = object.leafTexts src ++ property.leafTexts src := by
  rw [leafTexts, nameNodes_of_chain h ho hp]
  simp [isNameLeaf_of_isNameChain h, leafTexts]

/-- A node is an identifier, a chain of two parts, or no name. -/
theorem name_cases (n : Node) : n.isNameLeaf = true ∨
    (n.isNameChain = true ∧ ∃ object property, n.child? "object" = some object ∧
      n.child? "property" = some property) ∨ n.isNoName = true := by
  by_cases hleaf : n.isNameLeaf = true
  · exact Or.inl hleaf
  · right
    by_cases hparts : (n.isNameChain && (n.child? "object").isSome &&
        (n.child? "property").isSome) = true
    · left
      simp only [Bool.and_eq_true, Option.isSome_iff_exists] at hparts
      obtain ⟨⟨hchain, object, ho⟩, property, hp⟩ := hparts
      exact ⟨hchain, object, property, ho, hp⟩
    · right
      simp [isNoName, hleaf, hparts]

theorem isNoName_of_leaf (h : n.isNameLeaf = true) : n.isNoName = false := by
  simp [isNoName, h]

theorem isNoName_of_chain (h : n.isNameChain = true) (ho : n.child? "object" = some object)
    (hp : n.child? "property" = some property) : n.isNoName = false := by
  simp [isNoName, h, ho, hp]

theorem find?_nameNodes_of_chain (h : n.isNameChain = true) (ho : n.child? "object" = some object)
    (hp : n.child? "property" = some property) :
    n.nameNodes.find? isNoName =
      (object.nameNodes.find? isNoName).or (property.nameNodes.find? isNoName) := by
  rw [nameNodes_of_chain h ho hp, List.find?_cons_of_neg (by simp [isNoName_of_chain h ho hp]),
    List.find?_append]

end Shapes

variable {src : Source}

/-- A name that can be read has an identifier. -/
theorem leafTexts_ne_nil (src : Source) {n : Node} (h : n.nameNodes.find? isNoName = none) :
    n.leafTexts src ≠ [] := by
  induction n using childInduction with
  | _ n ih =>
    rcases n.name_cases with hleaf | ⟨hchain, object, property, ho, hp⟩ | hbad
    · simp [leafTexts_of_leaf hleaf]
    · rw [find?_nameNodes_of_chain hchain ho hp, Option.or_eq_none_iff] at h
      have hobject := ih object (List.mem_of_find?_eq_some ho) h.1
      rw [leafTexts_of_chain hchain ho hp]
      exact List.append_ne_nil_of_left_ne_nil hobject _
    · rw [find?_nameNodes_of_isNoName hbad] at h
      cases h

/-- What a name comes to: the first of its nodes that is no name is reported, and without one the
identifiers are joined by dots. -/
theorem qualifiedName_eq_find? (n : Node) : n.qualifiedName src =
    match n.nameNodes.find? isNoName with
    | some bad => bad.unknown src .name
    | none => .ok (".".intercalate (n.leafTexts src)) := by
  induction n using childInduction with
  | _ n ih =>
    rw [qualifiedName_eq]
    rcases n.name_cases with hleaf | ⟨hchain, object, property, ho, hp⟩ | hbad
    · rw [if_pos hleaf, nameNodes_of_not_chain (isNameChain_of_isNameLeaf hleaf),
        leafTexts_of_leaf hleaf, List.find?_singleton, isNoName_of_leaf hleaf]
      simp
    · have hobject := ih object (List.mem_of_find?_eq_some ho)
      have hproperty := ih property (List.mem_of_find?_eq_some hp)
      rw [isNameLeaf_of_isNameChain hchain, hchain, ho, hp,
        find?_nameNodes_of_chain hchain ho hp, leafTexts_of_chain hchain ho hp]
      -- the object is read first, and the property only if that succeeds
      cases hfo : object.nameNodes.find? isNoName with
      | some bad =>
        simp only [hobject, hfo, Option.some_or]
        rfl
      | none =>
        cases hfp : property.nameNodes.find? isNoName with
        | some bad =>
          simp only [hobject, hfo, hproperty, hfp, Option.none_or]
          rfl
        | none =>
          have hne := leafTexts_ne_nil src hfo
          have hne' := leafTexts_ne_nil src hfp
          simp only [hobject, hfo, hproperty, hfp, Option.or_none,
            String.intercalate_append_of_ne_nil hne hne']
          rfl
    · have hunknown := hbad
      simp only [isNoName, Bool.and_eq_true, Bool.not_eq_true'] at hunknown
      rw [find?_nameNodes_of_isNoName hbad, hunknown.1, if_neg Bool.false_ne_true]
      split
      · next hchain =>
        split
        · next object property ho hp => simp [hchain, ho, hp] at hunknown
        · rfl
      · rfl

/-- A tag under an accepted name is recorded at the path of the name, and nowhere else. -/
theorem instancesAt_visitTag {config : ScanConfig} {imports : ImportTable} {f : SourceFile}
    {tag n : Node} {name : String} {use : Instance} (ht : tag.isTag = true)
    (hn : tag.child? "name" = some n) (hq : n.qualifiedName f.source = .ok name)
    (ha : config.accepts imports name = .ok true) (hu : tag.use f.source f.file = .ok use)
    (s : ScanState) (path : List String) :
    (visitTag config imports f s tag).1.report.instancesAt path =
      s.report.instancesAt path ++ if segments name = path then [use] else [] := by
  rw [visitTag_eq, reading_of_use ht hn hq ha hu]
  have hadded : ∀ c : Component, (c.addInstance use).instances = c.instances ++ [use] := fun _ => rfl
  exact Report.instancesAt_alter (f := (·.addInstance use)) (fun _ => rfl) hadded s.report name path

/-- How the name of a tag leads to a path. Reading it fails exactly if a node that it comes to is
neither an identifier nor a chain of two parts, and the first such node is reported. Otherwise the
segments of the qualified name are the texts of the identifiers from left to right, if no dot is in
them, and a tag of that name is recorded at the path that they make. -/
theorem qualifiedName_spells_path (src : Source) (n : Node) :
    ((∃ fault, n.qualifiedName src = .error fault) ↔ ∃ m ∈ n.nameNodes, m.isNoName = true) ∧
    (∀ fault, n.qualifiedName src = .error fault ↔ ∃ bad, n.nameNodes.find? isNoName = some bad ∧
      fault = .shape .name bad.kind (src.position bad.start)) ∧
    ((∀ m ∈ n.nameNodes, m.isNoName = false) → (∀ t ∈ n.leafTexts src, '.' ∉ t.toList) →
      ∃ name, n.qualifiedName src = .ok name ∧ segments name = n.leafTexts src ∧
        ∀ (config : ScanConfig) (imports : ImportTable) (file : String) (s : ScanState)
          (tag : Node) (use : Instance), tag.isTag = true → tag.child? "name" = some n →
          tag.use src file = .ok use → config.accepts imports name = .ok true → ∀ path,
          (visitTag config imports ⟨file, src⟩ s tag).1.report.instancesAt path =
            s.report.instancesAt path ++ if n.leafTexts src = path then [use] else []) := by
  have hfault : ∀ fault, n.qualifiedName src = .error fault ↔
      ∃ bad, n.nameNodes.find? isNoName = some bad ∧
        fault = .shape .name bad.kind (src.position bad.start) := by
    intro fault
    rw [qualifiedName_eq_find?]
    cases n.nameNodes.find? isNoName with
    | none => simp
    | some bad => simp [unknown, eq_comm]
  refine ⟨?_, hfault, ?_⟩
  · rw [← List.find?_isSome, Option.isSome_iff_exists]
    constructor
    · rintro ⟨fault, h⟩
      obtain ⟨bad, hbad, -⟩ := (hfault fault).1 h
      exact ⟨bad, hbad⟩
    · rintro ⟨bad, hbad⟩
      exact ⟨_, (hfault _).2 ⟨bad, hbad, rfl⟩⟩
  · intro hnames hdots
    have hnone : n.nameNodes.find? isNoName = none := by
      rw [List.find?_eq_none]
      intro m hm
      simp [hnames m hm]
    have hname : n.qualifiedName src = .ok (".".intercalate (n.leafTexts src)) := by
      rw [qualifiedName_eq_find?, hnone]
    have hsegments := segments_intercalate (leafTexts_ne_nil src hnone) hdots
    refine ⟨_, hname, hsegments, ?_⟩
    intro config imports file s tag use ht hn hu ha path
    rw [instancesAt_visitTag (f := ⟨file, src⟩) ht hn hname ha hu, hsegments]

end Node

namespace Sample

/-- The text `<A.B.C/>`. -/
def dotted : Source := [0x3C, 0x41, 0x2E, 0x42, 0x2E, 0x43, 0x2F, 0x3E]

def letter (kind : String) (start : Nat) (role : String) : Node :=
  { kind := kind, start := start, stop := start + 1, role := some role }

def innerChain : Node :=
  { kind := "nested_identifier", start := 3, stop := 6, role := some "property"
    children := [letter "jsx_identifier" 3 "object", letter "property_identifier" 5 "property"] }

/-- A chain that is nested to the right. -/
def rightChain : Node :=
  { kind := "member_expression", start := 1, stop := 6, role := some "name"
    children := [letter "identifier" 1 "object", innerChain] }

def dottedTag : Node :=
  { kind := "jsx_self_closing_element", start := 0, stop := 8, children := [rightChain] }

/-- A chain without a property, on an object that is no name. -/
def shortChain : Node :=
  { kind := "nested_identifier", start := 1, stop := 4, role := some "object"
    children := [letter "number" 1 "object"] }

def brokenChain : Node :=
  { kind := "member_expression", start := 1, stop := 6, role := some "name"
    children := [shortChain, letter "this" 5 "property"] }

theorem nameNodes_rightChain : rightChain.nameNodes = [rightChain, letter "identifier" 1 "object",
    innerChain, letter "jsx_identifier" 3 "object", letter "property_identifier" 5 "property"] := by
  have hinner : innerChain.nameNodes = [innerChain, letter "jsx_identifier" 3 "object",
      letter "property_identifier" 5 "property"] := by
    rw [@Node.nameNodes_of_chain innerChain _ _ rfl rfl rfl, Node.nameNodes_of_not_chain rfl,
      Node.nameNodes_of_not_chain rfl]
    rfl
  rw [@Node.nameNodes_of_chain rightChain _ _ rfl rfl rfl, Node.nameNodes_of_not_chain rfl, hinner]
  rfl

theorem leafTexts_rightChain : rightChain.leafTexts dotted = ["A", "B", "C"] := by
  rw [Node.leafTexts, nameNodes_rightChain]
  cbv

/-- The first node of the broken chain that is no name is its object, not what stands in it. -/
theorem find?_brokenChain : brokenChain.nameNodes.find? Node.isNoName = some shortChain := by
  rw [@Node.find?_nameNodes_of_chain brokenChain _ _ rfl rfl rfl,
    Node.find?_nameNodes_of_isNoName rfl]
  rfl

end Sample

/-- A chain that nests to the right is recorded along its three identifiers. A chain without a
property is reported before the wrong object that it has, and before the wrong property beside it. -/
theorem Node.qualifiedName_spells_path_chains :
    (∃ name, Sample.rightChain.qualifiedName Sample.dotted = .ok name ∧
      segments name = ["A", "B", "C"] ∧
      (Sample.dottedTag.visitTag { subComponents := true } [] ⟨"a.jsx", Sample.dotted⟩
        { report := [] }).1.report.instancesAt ["A", "B", "C"] =
          [{ location := ⟨"a.jsx", 1, 1⟩ }]) ∧
    Sample.brokenChain.qualifiedName Sample.dotted =
      .error (.shape .name "nested_identifier" ⟨1, 2⟩) := by
  constructor
  · have hright := (qualifiedName_spells_path Sample.dotted Sample.rightChain).2.2
    rw [Sample.nameNodes_rightChain, Sample.leafTexts_rightChain] at hright
    obtain ⟨name, hname, hsegments, hrecorded⟩ := hright (by decide) (by decide)
    have huse : Sample.dottedTag.use Sample.dotted "a.jsx" =
        .ok { location := ⟨"a.jsx", 1, 1⟩ } := by cbv
    exact ⟨name, hname, hsegments, hrecorded { subComponents := true } [] "a.jsx" { report := [] }
      Sample.dottedTag _ rfl rfl huse rfl ["A", "B", "C"]⟩
  · exact ((qualifiedName_spells_path Sample.dotted Sample.brokenChain).2.1 _).2
      ⟨Sample.shortChain, Sample.find?_brokenChain, by decide⟩

end MarkupCensus
