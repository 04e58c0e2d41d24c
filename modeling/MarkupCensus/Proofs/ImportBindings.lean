import MarkupCensus.Proofs.OrderedMap
import MarkupCensus.Proofs.Usages
import MarkupCensus.Tree.Imports

namespace MarkupCensus

namespace Node

/-- The import statements at the top of a program that read from a module. -/
def sourcedImports (root : Node) : List Node :=
  root.namedChildren.filter fun s => s.kind == "import_statement" && (s.child? "source").isSome

/-- What the clauses of an import statement consist of. -/
def clauseMembers (s : Node) : List Node :=
  (s.significant.filter (·.kind == "import_clause")).flatMap significant

/-- The nodes whose texts a member of a clause binds: a default name itself, the name of a namespace,
and the alias of each specifier, or its name if it has no alias. -/
def boundNodes (m : Node) : List Node :=
  if m.kind == "identifier" then [m]
  else if m.kind == "namespace_import" then m.significant
  else if m.kind == "named_imports" then m.significant.filterMap localName?
  else []

/-- The nodes that have no place in a clause: members of other kinds, what is no name in a namespace,
and what is no specifier, or one without a name, among named imports. -/
def misshapen (m : Node) : List Node :=
  if m.kind == "identifier" then []
  else if m.kind == "namespace_import" then m.significant.filter (·.kind != "identifier")
  else if m.kind == "named_imports" then
    m.significant.filter fun c => c.kind != "import_specifier" || c.localName?.isNone
  else [m]

/-- The misshapen nodes of an import statement. -/
def misshapenIn (s : Node) : List Node := s.clauseMembers.flatMap misshapen

/-- The module that an import statement reads from. -/
def moduleText (src : Source) (s : Node) : Text :=
  ((s.child? "source").bind fun source => (source.stringValue src).toOption).getD []

/-- What an import statement binds. -/
def bindingsOf (src : Source) (s : Node) : List (String × Value) :=
  (s.clauseMembers.flatMap boundNodes).map fun n =>
    (String.ofList (n.text src), .text (s.moduleText src))

/-- What the import statements of a program bind, in the order of the source. -/
def bindings (src : Source) (root : Node) : List (String × Value) :=
  root.sourcedImports.flatMap (bindingsOf src)

/-- A result that stands if no node is misshapen; otherwise the first of them is reported. -/
def unlessMisshapen {α : Type} (src : Source) (bad : List Node) (a : α) : Except Fault α :=
  match bad with
  | [] => .ok a
  | n :: _ => n.unknown src .importSpecifier

section Sequences

variable {α : Type} {src : Source} {ns : List Node} {bad : Node → List Node}

theorem unlessMisshapen_congr {xs : List Node} {a b : α} (h : xs = [] → a = b) :
    unlessMisshapen src xs a = unlessMisshapen src xs b := by
  cases xs with
  | nil => rw [h rfl]
  | cons => rfl

theorem mapM_eq_unlessMisshapen {f : Node → Except Fault α} {g : Node → α}
    (h : ∀ n ∈ ns, f n = unlessMisshapen src (bad n) (g n)) :
    ns.mapM f = unlessMisshapen src (ns.flatMap bad) (ns.map g) := by
  induction ns with
  | nil => rfl
  | cons n ns ih =>
    rw [List.forall_mem_cons] at h
    rw [List.mapM_cons, h.1, ih h.2, List.flatMap_cons, List.map_cons]
    cases bad n with
    | nil => cases ns.flatMap bad <;> rfl
    | cons => rfl

theorem foldlM_eq_unlessMisshapen {f : α → Node → Except Fault α} {step : α → Node → α}
    (h : ∀ n ∈ ns, ∀ a, f a n = unlessMisshapen src (bad n) (step a n)) (a : α) :
    ns.foldlM f a = unlessMisshapen src (ns.flatMap bad) (ns.foldl step a) := by
  induction ns generalizing a with
  | nil => rfl
  | cons n ns ih =>
    rw [List.forall_mem_cons] at h
    rw [List.foldlM_cons, h.1, List.flatMap_cons, List.foldl_cons]
    cases bad n with
    | nil => exact ih h.2 _
    | cons => rfl

theorem flatMap_unless (p : Node → Bool) (ns : List Node) :
    (ns.flatMap fun n => if p n then [] else [n]) = ns.filter fun n => !p n := by
  induction ns with
  | nil => rfl
  | cons n ns ih => cases hp : p n <;> simp [hp, ih]

/-- Nodes that are tested one by one. -/
theorem mapM_tested {f : Node → Except Fault α} {g : Node → α} {p : Node → Bool}
    (h : ∀ n ∈ ns, f n = if p n then .ok (g n) else n.unknown src .importSpecifier) :
    ns.mapM f = unlessMisshapen src (ns.filter fun n => !p n) (ns.map g) := by
  have htested : ∀ n ∈ ns, f n = unlessMisshapen src (if p n then [] else [n]) (g n) := by
    intro n hn
    rw [h n hn]
    split <;> rfl
  rw [mapM_eq_unlessMisshapen htested, flatMap_unless]

end Sequences

section Statements

variable {src : Source}

theorem boundNames_of_named {m : Node} (h : m.kind = "named_imports") :
    m.boundNames src = unlessMisshapen src m.misshapen m.boundNodes := by
  have hbound : m.boundNodes = m.significant.filterMap localName? := by simp [boundNodes, h]
  have hbad : m.misshapen =
      m.significant.filter fun c => !(c.kind == "import_specifier" && c.localName?.isSome) := by
    simp only [misshapen, h]
    refine List.filter_congr fun c _ => ?_
    rw [Bool.not_and, Option.not_isSome]
    rfl
  have htested : m.boundNames src = unlessMisshapen src m.misshapen
      (m.significant.map fun c => c.localName?.getD c) := by
    rw [hbad]
    refine Eq.trans ?_ (mapM_tested fun c _ => rfl)
    simp only [boundNames, h]
    refine congrArg m.significant.mapM (funext fun c => ?_)
    cases c.kind == "import_specifier" <;> cases c.localName? <;> rfl
  rw [htested]
  refine unlessMisshapen_congr fun hnone => ?_
  -- a specifier that is not misshapen has a name
  rw [hbad, List.filter_eq_nil_iff] at hnone
  rw [hbound, ← List.filterMap_eq_map]
  refine List.filterMap_congr fun c hc => ?_
  have hname : c.localName?.isSome = true := by
    have := hnone c hc
    simp only [Bool.not_eq_true', Bool.not_eq_false, Bool.and_eq_true] at this
    exact this.2
  obtain ⟨name, hname⟩ := Option.isSome_iff_exists.1 hname
  simp [hname]

theorem boundNames_eq (src : Source) (m : Node) :
    m.boundNames src = unlessMisshapen src m.misshapen m.boundNodes := by
  by_cases hnamed : m.kind = "named_imports"
  · exact boundNames_of_named hnamed
  · unfold boundNames misshapen boundNodes
    split
    · rfl
    · split
      · have htested : ∀ c ∈ m.significant,
            (if c.kind == "identifier" then .ok c else c.unknown src .importSpecifier) =
              if c.kind == "identifier" then .ok (id c) else c.unknown src .importSpecifier :=
          fun _ _ => rfl
        rw [mapM_tested htested, List.map_id]
        rfl
      · simp [hnamed, unlessMisshapen]

theorem importedNames_eq (s : Node) : s.importedNames src =
    unlessMisshapen src s.misshapenIn (s.clauseMembers.flatMap boundNodes) := by
  have hmembers : ∀ m ∈ s.clauseMembers,
      m.boundNames src = unlessMisshapen src m.misshapen m.boundNodes :=
    fun m _ => boundNames_eq src m
  unfold importedNames
  change s.clauseMembers.mapM (boundNames src) >>= _ = _
  rw [mapM_eq_unlessMisshapen hmembers, misshapenIn, List.flatMap_def (f := boundNodes)]
  cases s.clauseMembers.flatMap misshapen <;> rfl

/-- The source of an import statement, where there is one, is a string that can be decoded. -/
def HasStringSource (src : Source) (s : Node) : Prop :=
  ∀ source, s.child? "source" = some source →
    source.kind = "string" ∧ ∃ t, source.stringValue src = .ok t

theorem importedModule?_eq {s : Node} (h : s.HasStringSource src)
    (hs : (s.child? "source").isSome = true) :
    s.importedModule? src = .ok (some (.text (s.moduleText src))) := by
  obtain ⟨source, hsource⟩ := Option.isSome_iff_exists.1 hs
  obtain ⟨hkind, t, ht⟩ := h source hsource
  have hmodule : s.moduleText src = t := by simp [moduleText, hsource, ht, Except.toOption]
  have hvalue : source.literalValue src false = .ok (.text t) := by
    simp [literalValue, hkind, ht, Except.map, Except.mapError]
  rw [importedModule?, hsource, hmodule]
  simp [hvalue, bind, Except.bind, pure, Except.pure]

theorem addImports_eq {s : Node} (h : s.HasStringSource src)
    (hs : (s.child? "source").isSome = true) (table : ImportTable) :
    s.addImports src table = unlessMisshapen src s.misshapenIn
      ((s.bindingsOf src).foldl (fun t p => t.set p.1 p.2) table) := by
  rw [addImports, importedModule?_eq h hs, importedNames_eq, bindingsOf, List.foldl_map]
  cases s.misshapenIn <;> rfl

/-- Statements that read from no module leave the table as it is. -/
theorem importTable_eq_foldlM (src : Source) (root : Node) :
    root.importTable src = root.sourcedImports.foldlM (addImports src) [] := by
  have hsourced : root.sourcedImports =
      (root.namedChildren.filter (·.kind == "import_statement")).filter
        fun s => (s.child? "source").isSome := by
    rw [List.filter_filter, sourcedImports]
    refine List.filter_congr fun s _ => ?_
    rw [Bool.and_comm]
  rw [importTable, hsourced]
  -- the table is generalised, since the statements add to it one after another
  generalize root.namedChildren.filter (·.kind == "import_statement") = ss
  generalize ([] : ImportTable) = table
  induction ss generalizing table with
  | nil => rfl
  | cons s ss ih =>
    rw [List.foldlM_cons]
    cases hs : s.child? "source" with
    | none =>
      have hadd : s.addImports src table = .ok table := by
        rw [addImports, importedModule?, hs]
        rfl
      rw [List.filter_cons_of_neg (by simp [hs]), hadd]
      exact ih table
    | some source =>
      rw [List.filter_cons_of_pos (by simp [hs]), List.foldlM_cons]
      exact bind_congr ih

/-- The table of a program is made of its bindings, unless a node is misshapen. -/
theorem importTable_eq {root : Node} (h : ∀ s ∈ root.sourcedImports, s.HasStringSource src) :
    root.importTable src = unlessMisshapen src (root.sourcedImports.flatMap misshapenIn)
      (OrderedMap.ofPairs (root.bindings src)) := by
  have hadd : ∀ s ∈ root.sourcedImports, ∀ table, s.addImports src table =
      unlessMisshapen src s.misshapenIn
        ((s.bindingsOf src).foldl (fun t p => t.set p.1 p.2) table) := by
    intro s hs table
    have hsource := (List.mem_filter.1 hs).2
    rw [Bool.and_eq_true] at hsource
    exact addImports_eq (h s hs) hsource.2 table
  rw [importTable_eq_foldlM, foldlM_eq_unlessMisshapen hadd, OrderedMap.ofPairs, bindings,
    List.foldl_flatMap]

theorem importTable_eq_ok_iff {root : Node}
    (h : ∀ s ∈ root.sourcedImports, s.HasStringSource src) {table : ImportTable} :
    root.importTable src = .ok table ↔ root.sourcedImports.flatMap misshapenIn = [] ∧
      OrderedMap.ofPairs (root.bindings src) = table := by
  rw [importTable_eq h]
  cases root.sourcedImports.flatMap misshapenIn with
  | nil => simp [unlessMisshapen]
  | cons bad rest => simp [unlessMisshapen, unknown]

theorem importTable_eq_error_iff {root : Node}
    (h : ∀ s ∈ root.sourcedImports, s.HasStringSource src) {fault : Fault} :
    root.importTable src = .error fault ↔ ∃ bad rest,
      root.sourcedImports.flatMap misshapenIn = bad :: rest ∧
      fault = .shape .importSpecifier bad.kind (src.position bad.start) := by
  rw [importTable_eq h]
  cases root.sourcedImports.flatMap misshapenIn with
  | nil => simp [unlessMisshapen]
  | cons bad rest => simp [unlessMisshapen, unknown, eq_comm]

end Statements

/-- What the import table of a program holds, if the sources of its imports are strings. It has the
names that the import statements at the top bind, in the order in which they are first bound, each with
the module that binds it last, and it depends on nothing else in the program. It fails exactly if
something in a clause of these statements is misshapen, and reports the first such node. -/
theorem importTable_lists_bindings (src : Source) (root : Node)
    (h : ∀ s ∈ root.namedChildren, s.kind = "import_statement" → s.HasStringSource src) :
    (∀ table, root.importTable src = .ok table →
      (∀ name, name ∈ OrderedMap.keys table ↔ name ∈ (root.bindings src).map Prod.fst) ∧
      (∀ name v, OrderedMap.get? table name = some v ↔ ∃ before after,
        root.bindings src = before ++ (name, v) :: after ∧ name ∉ after.map Prod.fst) ∧
      OrderedMap.keys table = ((root.bindings src).map Prod.fst).eraseDups) ∧
    ((∃ fault, root.importTable src = .error fault) ↔
      ∃ s ∈ root.sourcedImports, ∃ m ∈ s.clauseMembers, m.misshapen ≠ []) ∧
    (∀ fault, root.importTable src = .error fault ↔ ∃ bad rest,
      root.sourcedImports.flatMap misshapenIn = bad :: rest ∧
      fault = .shape .importSpecifier bad.kind (src.position bad.start)) ∧
    ∀ root' : Node, root'.sourcedImports = root.sourcedImports →
      root'.importTable src = root.importTable src := by
  have hsources : ∀ s ∈ root.sourcedImports, s.HasStringSource src := by
    intro s hs
    obtain ⟨hs, hkind⟩ := List.mem_filter.1 hs
    rw [Bool.and_eq_true, beq_iff_eq] at hkind
    exact h s hs hkind.1
  refine ⟨?_, ?_, fun fault => importTable_eq_error_iff hsources, ?_⟩
  · intro table hok
    obtain ⟨-, rfl⟩ := (importTable_eq_ok_iff hsources).1 hok
    refine ⟨?_, ?_, OrderedMap.keys_ofPairs _⟩
    · intro name
      rw [OrderedMap.keys_ofPairs, List.mem_eraseDups]
    · intro name v
      exact OrderedMap.get?_ofPairs_eq_some_iff
  · have hsome : (∃ s ∈ root.sourcedImports, ∃ m ∈ s.clauseMembers, m.misshapen ≠ []) ↔
        root.sourcedImports.flatMap misshapenIn ≠ [] := by
      simp [misshapenIn, List.flatMap_eq_nil_iff]
    rw [hsome]
    constructor
    · rintro ⟨fault, hf⟩
      obtain ⟨bad, rest, hbad, -⟩ := (importTable_eq_error_iff hsources).1 hf
      rw [hbad]
      exact List.cons_ne_nil bad rest
    · intro hne
      obtain ⟨bad, rest, hbad⟩ := List.exists_cons_of_ne_nil hne
      exact ⟨_, (importTable_eq_error_iff hsources).2 ⟨bad, rest, hbad, rfl⟩⟩
  · intro root' hroot
    rw [importTable_eq_foldlM, importTable_eq_foldlM, hroot]

end Node

namespace Sample

def shadowed : Source :=
  Utf8.encode "import A from'x';import\x7bB as A,C\x7dfrom'y';import*as C from'z';".toList

def moduleName (start : Nat) : Node :=
  { kind := "string", start := start, stop := start + 3, role := some "source"
    children := [{ kind := "string_fragment", start := start + 1, stop := start + 2 }] }

/-- An import statement with one clause, and a module name of one letter. -/
def importOf (start source : Nat) (members : List Node) : Node :=
  { kind := "import_statement", start := start, stop := source + 4
    children := [{ kind := "import_clause", start := start + 6, stop := source - 4
                   children := members }, moduleName source] }

def identifierAt (start : Nat) (role : Option String) : Node :=
  { kind := "identifier", start := start, stop := start + 1, role := role }

def specifier (start stop : Nat) (parts : List Node) : Node :=
  { kind := "import_specifier", start := start, stop := stop, children := parts }

def defaultImport : Node := importOf 0 13 [identifierAt 7 none]

/-- Named imports, the first under the name of the default one. -/
def namedImport : Node :=
  importOf 17 37
    [{ kind := "named_imports", start := 23, stop := 33
       children :=
        [specifier 24 30 [identifierAt 24 (some "name"), identifierAt 29 (some "alias")],
         specifier 31 32 [identifierAt 31 (some "name")]] }]

/-- A namespace under the name of the second named import. -/
def namespaceImport : Node :=
  importOf 41 57
    [{ kind := "namespace_import", start := 47, stop := 52, children := [identifierAt 51 none] }]

def shadowedRoot : Node :=
  { kind := "program", start := 0, stop := 61
    children := [defaultImport, namedImport, namespaceImport] }

theorem stringValue_moduleName (src : Source) (start : Nat) :
    (moduleName start).stringValue src =
      .ok ((Utf8.decode (src.slice (start + 1) (start + 2))).map CodePoint.ofChar) :=
  congrArg Except.ok (List.append_nil _)

theorem hasStringSource_importOf (src : Source) (start source : Nat) (members : List Node) :
    (importOf start source members).HasStringSource src := by
  intro n hn
  obtain rfl : moduleName source = n := Option.some.inj hn
  exact ⟨rfl, _, stringValue_moduleName src source⟩

theorem moduleText_importOf (src : Source) (start source : Nat) (members : List Node) :
    (importOf start source members).moduleText src =
      (Utf8.decode (src.slice (source + 1) (source + 2))).map CodePoint.ofChar := by
  have hmodule : (importOf start source members).moduleText src =
      ((moduleName source).stringValue src).toOption.getD [] := rfl
  rw [hmodule, stringValue_moduleName]
  rfl

theorem shadowedRoot_hasStringSource : ∀ s ∈ shadowedRoot.namedChildren,
    s.kind = "import_statement" → s.HasStringSource shadowed := by
  intro s hs _
  change s ∈ shadowedRoot.children at hs
  simp only [shadowedRoot, List.mem_cons, List.not_mem_nil, or_false] at hs
  rcases hs with rfl | rfl | rfl
  all_goals exact hasStringSource_importOf _ _ _ _

theorem bindings_shadowedRoot : shadowedRoot.bindings shadowed =
    [("A", .ofString "x"), ("A", .ofString "y"), ("C", .ofString "y"), ("C", .ofString "z")] := by
  have htext : ∀ e ∈ [(7, 'A'), (14, 'x'), (29, 'A'), (31, 'C'), (38, 'y'), (51, 'C'), (58, 'z')],
      Utf8.decode (shadowed.slice e.1 (e.1 + 1)) = [e.2] := by
    simp only [List.forall_mem_cons, List.not_mem_nil, false_implies, implies_true, and_true]
    refine ⟨?_, ?_, ?_, ?_, ?_, ?_, ?_⟩ <;> cbv
  simp only [List.forall_mem_cons, List.not_mem_nil, false_implies, implies_true, and_true] at htext
  obtain ⟨h7, h14, h29, h31, h38, h51, h58⟩ := htext
  have hbindings : shadowedRoot.bindings shadowed =
      [(String.ofList (Utf8.decode (shadowed.slice 7 8)), .text (defaultImport.moduleText shadowed)),
       (String.ofList (Utf8.decode (shadowed.slice 29 30)), .text (namedImport.moduleText shadowed)),
       (String.ofList (Utf8.decode (shadowed.slice 31 32)), .text (namedImport.moduleText shadowed)),
       (String.ofList (Utf8.decode (shadowed.slice 51 52)),
        .text (namespaceImport.moduleText shadowed))] := rfl
  rw [hbindings, h7, h29, h31, h51, defaultImport, namedImport, namespaceImport,
    moduleText_importOf, moduleText_importOf, moduleText_importOf, h14, h38, h58]
  rfl

theorem importTable_shadowedRoot : shadowedRoot.importTable shadowed =
    .ok [("A", .ofString "y"), ("C", .ofString "z")] := by
  have hsources : ∀ s ∈ shadowedRoot.sourcedImports, s.HasStringSource shadowed :=
    fun s hs => shadowedRoot_hasStringSource s (List.mem_filter.1 hs).1 (by
      have hkind := (List.mem_filter.1 hs).2
      rw [Bool.and_eq_true, beq_iff_eq] at hkind
      exact hkind.1)
  rw [Node.importTable_eq hsources, bindings_shadowedRoot]
  rfl

/-- The text `import A,{B,9}from'x';` with a number among the named imports. -/
def misshapen : Source := Utf8.encode "import A,\x7bB,9\x7dfrom'x';".toList

def misshapenRoot : Node :=
  { kind := "program", start := 0, stop := 22
    children :=
      [importOf 0 18 [identifierAt 7 none,
        { kind := "named_imports", start := 9, stop := 14
          children := [specifier 10 11 [identifierAt 10 (some "name")],
            { kind := "number", start := 12, stop := 13 }] }]] }

end Sample

/-- Both names are bound twice and keep their first places with their last modules. A number among named
imports is reported, and nothing else is. -/
theorem Node.importTable_lists_bindings_shadowed :
    (Sample.shadowedRoot.importTable Sample.shadowed =
        .ok [("A", .ofString "y"), ("C", .ofString "z")] ∧
      ∃ before after, Sample.shadowedRoot.bindings Sample.shadowed =
        before ++ ("A", .ofString "y") :: after ∧ "A" ∉ after.map Prod.fst) ∧
    Sample.misshapenRoot.importTable Sample.misshapen =
      .error (.shape .importSpecifier "number" ⟨1, 13⟩) := by
  refine ⟨⟨Sample.importTable_shadowedRoot, ?_⟩, ?_⟩
  · have htable := (importTable_lists_bindings Sample.shadowed Sample.shadowedRoot
      Sample.shadowedRoot_hasStringSource).1 _ Sample.importTable_shadowedRoot
    exact (htable.2.1 "A" (.ofString "y")).1 rfl
  · refine ((importTable_lists_bindings Sample.misshapen Sample.misshapenRoot ?_).2.2.1 _).2
      ⟨{ kind := "number", start := 12, stop := 13 }, [], rfl, by decide⟩
    intro s hs _
    obtain rfl := List.mem_singleton.1 hs
    exact Sample.hasStringSource_importOf _ _ _ _

end MarkupCensus
