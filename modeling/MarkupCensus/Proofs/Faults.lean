import MarkupCensus.Proofs.CharacterReferences
import MarkupCensus.Proofs.Escapes
import MarkupCensus.Proofs.Search
import MarkupCensus.Proofs.SourceOrder

namespace MarkupCensus

/-- What the grammar promises of a node: numerals and escapes are tokens, and an attribute has a
name. -/
structure Node.IsLexed (src : Source) (n : Node) : Prop where
  numeral : n.kind = "number" → Numeral.Token (n.text src)
  escape : n.kind = "escape_sequence" → Escape.Token (n.text src)
  named : n.kind = "jsx_attribute" → n.significant ≠ []

/-- What a tree gives rise to: the fault of a node whose shape is unknown, of an escape whose number in
braces is beyond the last code point, of a string of the markup that refers to a character by a number of
too many digits, of an element one of whose names is no text, and of an imported module that is none where
a pattern is looked for. -/
inductive Fault.Arises (config : ScanConfig) (src : Source) (root : Node) : Fault → Prop
  | shape {n : Node} (hn : n ∈ root.nodes) (expected : Expected) :
    Arises config src root (.shape expected n.kind (src.position n.start))
  | escape {n : Node} {ds : List Char} (hn : n ∈ root.nodes) (hk : n.kind = "escape_sequence")
    (ht : n.text src = Escape.braced ds) (hr : 0x110000 ≤ Escape.number ds) :
    Arises config src root (.literal (Escape.rangeFault (Escape.number ds)))
  | reference {n : Node} {digits : Nat} (hn : n ∈ root.nodes) (hk : n.kind = "string")
    (hr : ¬CharRef.AllReadable (n.inner src)) (hd : digitLimit < digits) :
    Arises config src root (.literal (.overlongNumeral digits))
  | name {n : Node} {run : Utf8.IllFormed} (hn : n ∈ root.nodes) (hk : n.kind = "jsx_element")
    (hr : n.openName src = .error run ∨ n.closeName src = .error run) :
    Arises config src root (.illFormed run)
  | module {imports : ImportTable} {fault : Fault} (hi : root.importTable src = .ok imports)
    (hu : config.Unsearchable imports fault) : Arises config src root fault

namespace Node

section Membership

variable {root n c : Node}

theorem mem_nodes_of_mem_significant (hn : n ∈ root.nodes) (hc : c ∈ n.significant) :
    c ∈ root.nodes :=
  child_mem_nodes hn (mem_of_mem_significant hc)

theorem mem_nodes_of_child? {role : String} (hn : n ∈ root.nodes) (hc : n.child? role = some c) :
    c ∈ root.nodes :=
  child_mem_nodes hn (List.mem_of_find?_eq_some hc)

theorem unwrap_mem_nodes (hn : n ∈ root.nodes) : n.unwrap ∈ root.nodes := by
  fun_induction unwrap n with
  | case1 n _ inner h _ ih => exact ih (mem_nodes_of_mem_significant hn (by simp [h]))
  | case2 => exact hn
  | case3 => exact hn

end Membership

section Faults

variable {config : ScanConfig} {src : Source} {root n : Node} {fault : Fault}

theorem arises_of_unknown {α : Type} {expected : Expected} (hn : n ∈ root.nodes)
    (h : (n.unknown src expected : Except Fault α) = .error fault) : fault.Arises config src root := by
  obtain rfl := Except.error.inj h
  exact .shape hn expected

theorem arises_of_qualifiedName (hn : n ∈ root.nodes) (h : n.qualifiedName src = .error fault) :
    fault.Arises config src root := by
  fun_induction qualifiedName src n with
  | case1 => cases h
  | case2 n _ _ object property ho hp _ _ iho ihp =>
    rcases exists_error_of_bind_error h with h | ⟨_, _, h⟩
    · exact iho (mem_nodes_of_child? hn ho) h
    · exact ihp (mem_nodes_of_child? hn hp) (error_of_bind_pure_error h)
  | case3 => exact arises_of_unknown hn h
  | case4 => exact arises_of_unknown hn h

theorem arises_of_boundNames (hn : n ∈ root.nodes) (h : n.boundNames src = .error fault) :
    fault.Arises config src root := by
  unfold boundNames at h
  split at h
  · cases h
  · split at h
    · obtain ⟨c, hc, h⟩ := exists_error_of_mapM_error h
      split at h
      · cases h
      · exact arises_of_unknown (mem_nodes_of_mem_significant hn hc) h
    · split at h
      · obtain ⟨c, hc, h⟩ := exists_error_of_mapM_error h
        have hmem := mem_nodes_of_mem_significant hn hc
        split at h
        · split at h
          · cases h
          · exact arises_of_unknown hmem h
        · exact arises_of_unknown hmem h
      · exact arises_of_unknown hn h

theorem arises_of_importedNames (hn : n ∈ root.nodes) (h : n.importedNames src = .error fault) :
    fault.Arises config src root := by
  obtain ⟨c, hc, h⟩ := exists_error_of_mapM_error (error_of_bind_pure_error h)
  obtain ⟨clause, hclause, hc⟩ := List.mem_flatMap.1 hc
  have hmem := mem_nodes_of_mem_significant hn (List.mem_filter.1 hclause).1
  exact arises_of_boundNames (mem_nodes_of_mem_significant hmem hc) h

theorem arises_of_attributeString {e : LiteralFault} (hn : n ∈ root.nodes) (hk : n.kind = "string")
    (h : n.attributeString src = .error e) : (Fault.literal e).Arises config src root := by
  have he : CharRef.unescape (n.inner src) = .error e := by
    rw [attributeString, ← inner] at h
    cases hread : CharRef.unescape (n.inner src) with
    | error d =>
      rw [hread] at h
      rw [Except.error.inj h]
    | ok out =>
      rw [hread] at h
      cases h
  rcases CharRef.unescape_cases (n.inner src) with ⟨-, out, hout⟩ | ⟨hnot, digits, hd, herror⟩
  · cases hout.symm.trans he
  · obtain rfl := Except.error.inj (herror.symm.trans he)
    exact .reference hn hk hnot hd

theorem arises_of_imbalance? {run : Utf8.IllFormed} (hn : n ∈ root.nodes)
    (h : n.imbalance? src = some (.illFormed run)) : (Fault.illFormed run).Arises config src root := by
  unfold imbalance? at h
  split at h
  · next hk =>
    split at h
    · split at h
      · cases h
      · cases h
    · next hopen =>
      cases h
      exact .name hn (beq_iff_eq.1 hk) (Or.inl hopen)
    · next hclose =>
      cases h
      exact .name hn (beq_iff_eq.1 hk) (Or.inr hclose)
  · cases h

/-- Of the trees that are refused, only those with an ill-formed name abort the scan. -/
theorem arises_of_check {failure : ParseFailure} (h : root.check src = .error failure)
    (hend : ScanEnd.ofRefusal failure = .aborted fault) : fault.Arises config src root := by
  have hfailure : ∃ run, failure = .illFormed run ∧ fault = .illFormed run := by
    cases failure with
    | illFormed run => exact ⟨run, rfl, (ScanEnd.aborted.inj hend).symm⟩
    | malformed _ => cases hend
    | unclosed _ _ => cases hend
  obtain ⟨run, rfl, rfl⟩ := hfailure
  unfold check at h
  split at h
  · cases h
  · split at h
    · next hunbalanced =>
      cases h
      obtain ⟨n, hn, himbalance⟩ := Option.bind_eq_some_iff.1 hunbalanced
      rw [searchStack_all] at hn
      exact arises_of_imbalance? (List.mem_of_find?_eq_some hn) himbalance
    · cases h

variable (hlex : ∀ n ∈ root.nodes, n.IsLexed src)
include hlex

theorem arises_of_stringValue {e : LiteralFault} (hn : n ∈ root.nodes)
    (h : n.stringValue src = .error e) : (Fault.literal e).Arises config src root := by
  obtain ⟨c, hc, hpart⟩ := exists_error_of_mapM_error (error_of_bind_pure_error h)
  have hmem := child_mem_nodes hn hc
  unfold stringPart at hpart
  split at hpart
  · next hk =>
    have hk := beq_iff_eq.1 hk
    rcases Escape.decode_token ((hlex c hmem).escape hk) with ⟨t, ht⟩ | ⟨ds, ht, hr, hfault⟩
    · cases ht.symm.trans hpart
    · obtain rfl := Except.error.inj (hpart.symm.trans hfault)
      exact .escape hmem hk ht hr
  · split at hpart
    · cases hpart
    · cases hpart

theorem arises_of_literalValue {markup : Bool} (hn : n ∈ root.nodes)
    (h : n.literalValue src markup = .error fault) : fault.Arises config src root := by
  unfold literalValue at h
  split at h
  · next hk =>
    obtain ⟨e, he, rfl⟩ := exists_error_of_mapError_error h
    split at he
    · exact arises_of_attributeString hn (beq_iff_eq.1 hk) he
    · exact arises_of_stringValue hlex hn he
  · split at h
    · next hk =>
      obtain ⟨e, he, rfl⟩ := exists_error_of_mapError_error h
      obtain ⟨v, hv⟩ := Numeral.exists_value_of_token ((hlex n hn).numeral (beq_iff_eq.1 hk))
      cases hv.symm.trans he
    · -- the literals that are left have values of their own
      iterate 4
        split at h
        · cases h
      exact arises_of_unknown hn h

theorem arises_of_bracedValue (hn : n ∈ root.nodes) (h : n.bracedValue src = .error fault) :
    fault.Arises config src root := by
  unfold bracedValue at h
  split at h
  · cases h
  · next inner _ hs =>
    -- parentheses lead down to a node of the same tree
    have hinner : inner ∈ root.nodes := mem_nodes_of_mem_significant hn (by simp [hs])
    simp only at h
    split at h
    · exact arises_of_literalValue hlex (unwrap_mem_nodes hinner) h
    · cases h

theorem arises_of_attributeValue {value : Option Node} (hn : ∀ n, value = some n → n ∈ root.nodes)
    (h : attributeValue src value = .error fault) : fault.Arises config src root := by
  unfold attributeValue at h
  split at h
  · cases h
  · next n =>
    have hmem := hn n rfl
    split at h
    · exact arises_of_literalValue hlex hmem h
    · split at h
      · exact arises_of_bracedValue hlex hmem h
      · exact arises_of_unknown hmem h

theorem arises_of_namedAttribute (hn : n ∈ root.nodes) (hk : n.kind = "jsx_attribute")
    (h : n.namedAttribute src = .error fault) : fault.Arises config src root := by
  unfold namedAttribute at h
  split at h
  · next hs => exact absurd hs ((hlex n hn).named hk)
  · next name parts hs =>
    refine arises_of_attributeValue hlex ?_ (error_of_bind_pure_error h)
    intro c hc
    have hpart : c ∈ n.significant := by
      rw [hs]
      exact List.mem_cons_of_mem name (List.mem_of_head? hc)
    exact mem_nodes_of_mem_significant hn hpart

theorem arises_of_addAttribute {use : Instance} (hn : n ∈ root.nodes)
    (h : addAttribute src use n = .error fault) : fault.Arises config src root := by
  unfold addAttribute at h
  split at h
  · next hk =>
    exact arises_of_namedAttribute hlex hn (beq_iff_eq.1 hk) (error_of_bind_pure_error h)
  · split at h
    · cases h
    · exact arises_of_unknown hn h

theorem arises_of_use {file : String} {name : Node} (hn : n ∈ root.nodes)
    (hname : n.child? "name" = some name) (h : n.use src file = .error fault) :
    fault.Arises config src root := by
  rw [use, hname] at h
  obtain ⟨use, c, hc, h⟩ := exists_error_of_foldlM_error h
  exact arises_of_addAttribute hlex (child_mem_nodes hn (List.mem_filter.1 hc).1) h

theorem arises_of_importedModule? (hn : n ∈ root.nodes) (h : n.importedModule? src = .error fault) :
    fault.Arises config src root := by
  unfold importedModule? at h
  split at h
  · cases h
  · next source hs =>
    exact arises_of_literalValue hlex (mem_nodes_of_child? hn hs) (error_of_bind_pure_error h)

theorem arises_of_addImports {table : ImportTable} (hn : n ∈ root.nodes)
    (h : addImports src table n = .error fault) : fault.Arises config src root := by
  rcases exists_error_of_bind_error h with h | ⟨origin, _, h⟩
  · exact arises_of_importedModule? hlex hn h
  · cases origin with
    | none => cases h
    | some origin =>
      exact arises_of_importedNames hn (error_of_bind_pure_error h)

theorem arises_of_importTable (h : root.importTable src = .error fault) :
    fault.Arises config src root := by
  obtain ⟨table, statement, hs, h⟩ := exists_error_of_foldlM_error h
  have hchild : statement ∈ root.children := (List.mem_filter.1 (List.mem_filter.1 hs).1).1
  exact arises_of_addImports hlex (child_mem_nodes root.self_mem_nodes hchild) h

end Faults

theorem arises_of_reading {config : ScanConfig} {imports : ImportTable} {f : SourceFile}
    {root n : Node} {fault : Fault} (hlex : ∀ n ∈ root.nodes, n.IsLexed f.source)
    (hi : root.importTable f.source = .ok imports) (hn : n ∈ root.nodes)
    (h : n.reading config imports f = .faulty fault) : fault.Arises config f.source root := by
  obtain ⟨name, hname, h | ⟨qualified, h⟩ | h⟩ := of_reading_faulty h
  · exact arises_of_qualifiedName (mem_nodes_of_child? hn hname) h
  · exact .module hi (ScanConfig.unsearchable_of_accepts h)
  · exact arises_of_use hlex hn hname h

theorem arises_of_scanTree {config : ScanConfig} {f : SourceFile} {root : Node} {r : Report}
    {fault : Fault} (hlex : ∀ n ∈ root.nodes, n.IsLexed f.source)
    (h : (root.scanTree config f r).2 = .aborted fault) : fault.Arises config f.source root := by
  cases hi : root.importTable f.source with
  | error e =>
    simp only [scanTree, hi] at h
    obtain rfl := ScanEnd.aborted.inj h
    exact arises_of_importTable hlex hi
  | ok imports =>
    rw [scanTree_eq config imports f hi] at h
    have hfirst : firstFault? (root.readings config imports f) = some fault := by
      cases hf : firstFault? (root.readings config imports f) with
      | none => simp [hf, ScanEnd.ofFault?] at h
      | some e =>
        simp only [hf, ScanEnd.ofFault?] at h
        rw [ScanEnd.aborted.inj h]
    obtain ⟨n, hn, hr⟩ := exists_reading_of_mem_readings (mem_of_firstFault?_eq_some hfirst)
    exact arises_of_reading hlex hi hn hr

end Node

/-- What the grammar promises of a source: it is refused for its syntax alone, and what it is parsed to
is made of tokens. -/
structure Source.IsLexed (src : Source) (parsed : Except ParseFailure Node) : Prop where
  refused : ∀ failure, parsed = .error failure → ∃ position, failure = .malformed position
  nodes : ∀ root, parsed = .ok root → ∀ n ∈ root.nodes, n.IsLexed src

/-- A scan that is aborted had a tree, and a fault of that tree aborted it. -/
theorem arises_of_scan {config : ScanConfig} {f : SourceFile}
    {parsed : Except ParseFailure Node} {r : Report} {fault : Fault}
    (hlex : f.source.IsLexed parsed) (h : (scan config f parsed r).2 = .aborted fault) :
    ∃ root, parsed = .ok root ∧ fault.Arises config f.source root := by
  unfold scan at h
  split at h
  · next failure hc =>
    rcases exists_error_of_bind_error hc with hparsed | ⟨root, hparsed, hcheck⟩
    · obtain ⟨position, rfl⟩ := hlex.refused failure hparsed
      cases h
    · exact ⟨root, hparsed, Node.arises_of_check hcheck h⟩
  · next root hc =>
    have hroot := eq_ok_of_check_eq_ok hc
    exact ⟨root, hroot, Node.arises_of_scanTree (hlex.nodes root hroot) h⟩

theorem BatchFile.exists_source_of_fault? {config : ScanConfig}
    {parse : Source → Except ParseFailure Node} {b : BatchFile} {fault : Fault}
    (h : b.fault? config parse = some fault) :
    ∃ f, b.source? = some f ∧ (scan config f (parse f.source) []).2 = .aborted fault := by
  obtain ⟨f, hsource, h⟩ := Option.bind_eq_some_iff.1 h
  refine ⟨f, hsource, ?_⟩
  split at h
  · next hend => rw [hend, Option.some.inj h]
  · cases h

/-- The file that ended a batch is one of its files, and its scan ended with the fault. -/
theorem Batch.exists_fault_of_abort {config : ScanConfig}
    {parse : Source → Except ParseFailure Node} {b : Batch} {files : List BatchFile}
    {name : String} {fault : Fault} (hb : b.abort = none)
    (h : (scanAll config parse b files).abort = some (name, fault)) :
    ∃ f ∈ files, f.name = name ∧ f.fault? config parse = some fault := by
  induction files generalizing b with
  | nil => cases hb.symm.trans h
  | cons f fs ih =>
    simp only [scanAll, hb, Option.isSome_none, Bool.false_eq_true, if_false] at h
    cases hf : f.fault? config parse with
    | none =>
      obtain ⟨g, hg, hfault⟩ := ih (scanOne_continues hb hf).abort h
      exact ⟨g, List.mem_cons_of_mem f hg, hfault⟩
    | some e =>
      rw [scanOne_of_fault b hf, scanAll_of_abort rfl] at h
      obtain ⟨rfl, rfl⟩ := Prod.mk.inj (Option.some.inj h)
      exact ⟨f, List.mem_cons_self, rfl, hf⟩

/-- A scan over tokens of the grammar is aborted only by what its tree gives rise to. A batch is ended by
one of its files in the same way, and tells which. -/
theorem scan_faults_arise (config : ScanConfig) (parse : Source → Except ParseFailure Node)
    (r : Report) :
    (∀ (f : SourceFile) (root : Node) (fault : Fault), (∀ n ∈ root.nodes, n.IsLexed f.source) →
      (scan config f (.ok root) r).2 = .aborted fault → fault.Arises config f.source root) ∧
    ∀ (files : List BatchFile) (name : String) (fault : Fault),
      (∀ b ∈ files, ∀ f, b.source? = some f → f.source.IsLexed (parse f.source)) →
      (scanFiles config parse r files).abort = some (name, fault) →
      ∃ b ∈ files, b.name = name ∧ ∃ f root, b.source? = some f ∧ parse f.source = .ok root ∧
        fault.Arises config f.source root := by
  constructor
  · intro f root fault hlex h
    have hsource : f.source.IsLexed (.ok root) := by
      refine ⟨fun _ e => (by cases e), ?_⟩
      intro _ e
      cases e
      exact hlex
    obtain ⟨root', hroot, harises⟩ := arises_of_scan hsource h
    rwa [← Except.ok.inj hroot] at harises
  · intro files name fault hlex h
    obtain ⟨b, hb, hname, hfault⟩ := Batch.exists_fault_of_abort rfl h
    obtain ⟨f, hsource, hend⟩ := BatchFile.exists_source_of_fault? hfault
    obtain ⟨root, hroot, harises⟩ := arises_of_scan (hlex b hb f hsource) hend
    exact ⟨b, hb, hname, f, root, hsource, hroot, harises⟩

namespace Sample

/-- The text `<A n={0x1F} b={'\u{110000}'}/>`. -/
def beyond : Source :=
  [0x3C, 0x41, 0x20, 0x6E, 0x3D, 0x7B, 0x30, 0x78, 0x31, 0x46, 0x7D, 0x20, 0x62, 0x3D, 0x7B, 0x27,
   0x5C, 0x75, 0x7B, 0x31, 0x31, 0x30, 0x30, 0x30, 0x30, 0x7D, 0x27, 0x7D, 0x2F, 0x3E]

def beyondFile : SourceFile := ⟨"beyond.jsx", beyond⟩

def braces (start stop : Nat) (value : Node) : Node :=
  { kind := "jsx_expression", start := start + 2, stop := stop, children := [value] }

/-- An attribute with a name of one letter and a value in braces. -/
def property (start stop : Nat) (value : Node) : Node :=
  { kind := "jsx_attribute", start := start, stop := stop, role := some "attribute"
    children := [{ kind := "property_identifier", start := start, stop := start + 1 },
      braces start stop value] }

def numeral : Node := { kind := "number", start := 6, stop := 10 }

def quoted : Node :=
  { kind := "string", start := 15, stop := 27
    children := [{ kind := "escape_sequence", start := 16, stop := 26 }] }

def beyondTag : Node :=
  { kind := "jsx_self_closing_element", start := 0, stop := 30
    children := [name "identifier" 1 2, property 3 11 numeral, property 12 28 quoted] }

def beyondRoot : Node := { kind := "program", start := 0, stop := 30, children := [beyondTag] }

theorem text_numeral : Utf8.decode (beyond.slice 6 10) = ['0', 'x', '1', 'F'] := by cbv

theorem token_numeral : Numeral.Token ['0', 'x', '1', 'F'] := .marked rfl (.next rfl (.one rfl))

theorem text_escape : Utf8.decode (beyond.slice 16 26) =
    Escape.braced ['1', '1', '0', '0', '0', '0'] := by cbv

theorem digits_escape : ∀ c ∈ ['1', '1', '0', '0', '0', '0'], Numeral.isDigitOf 16 c = true :=
  List.all_eq_true.1 rfl

theorem beyondRoot_isLexed : ∀ n ∈ beyondRoot.nodes, n.IsLexed beyond := by
  have hnumeral : ∀ n ∈ beyondRoot.nodes, n.kind = "number" → n.start = 6 ∧ n.stop = 10 := by
    decide
  have hescape : ∀ n ∈ beyondRoot.nodes, n.kind = "escape_sequence" →
      n.start = 16 ∧ n.stop = 26 := by decide
  have hnamed : ∀ n ∈ beyondRoot.nodes, n.kind = "jsx_attribute" →
      n.significant.isEmpty = false := by decide
  intro n hn
  refine ⟨?_, ?_, ?_⟩
  · intro hk
    obtain ⟨hstart, hstop⟩ := hnumeral n hn hk
    rw [Node.text, hstart, hstop, text_numeral]
    exact token_numeral
  · intro hk
    obtain ⟨hstart, hstop⟩ := hescape n hn hk
    rw [Node.text, hstart, hstop, text_escape]
    exact .braced (List.cons_ne_nil _ _) digits_escape
  · intro hk hs
    have hne := hnamed n hn hk
    rw [hs] at hne
    cases hne

theorem decode_escape : Escape.decode (Escape.braced ['1', '1', '0', '0', '0', '0']) =
    .error .notCodePoint := by
  have hnumber : Escape.number ['1', '1', '0', '0', '0', '0'] = 0x110000 := rfl
  rw [Escape.decode_braced (List.cons_ne_nil _ _) digits_escape, hnumber]
  rfl

theorem addAttribute_property {value : Node} (start stop : Nat) (use : Instance)
    (hs : (braces start stop value).significant = [value])
    (hk : value.isLiteral = true ∧ value.kind ≠ "parenthesized_expression") :
    ∃ g : Value → Instance, (property start stop value).addAttribute beyond use =
      (value.literalValue beyond false).map g := by
  have hu : value.unwrap = value := by
    rw [Node.unwrap]
    simp [hk.2]
  have hbraced : (braces start stop value).bracedValue beyond =
      value.literalValue beyond false := by
    simp [Node.bracedValue, hs, hu, hk.1]
  let key := String.ofList (Utf8.decode (beyond.slice start (start + 1)))
  have hadd : (property start stop value).addAttribute beyond use =
      ((braces start stop value).bracedValue beyond >>= fun v => pure (key, v)) >>=
        fun p => pure { use with props := use.props.set p.1 p.2 } := rfl
  refine ⟨fun v => { use with props := use.props.set key v }, ?_⟩
  rw [hadd, hbraced]
  cases value.literalValue beyond false <;> rfl

theorem use_beyondTag : beyondTag.use beyond "beyond.jsx" = .error (.literal .notCodePoint) := by
  obtain ⟨v, hv⟩ := Numeral.exists_value_of_token token_numeral
  have hnumeral : numeral.literalValue beyond false = .ok (.number v) := by
    have hread : numeral.literalValue beyond false = ((Numeral.value
        (Utf8.decode (beyond.slice 6 10))).map Value.number).mapError .literal := rfl
    rw [hread, text_numeral, hv]
    rfl
  have hquoted : quoted.literalValue beyond false = .error (.literal .notCodePoint) := by
    have hread : quoted.literalValue beyond false =
        (((Escape.decode (Utf8.decode (beyond.slice 16 26)) >>= fun t => pure [t]) >>=
          fun ts => pure ts.flatten).map Value.text).mapError .literal := rfl
    rw [hread, text_escape, decode_escape]
    rfl
  have huse : beyondTag.use beyond "beyond.jsx" =
      [property 3 11 numeral, property 12 28 quoted].foldlM (Node.addAttribute beyond)
        { location := beyond.location "beyond.jsx" 1 } := rfl
  obtain ⟨g, hg⟩ := addAttribute_property 3 11 { location := beyond.location "beyond.jsx" 1 }
    (show (braces 3 11 numeral).significant = [numeral] from rfl) ⟨rfl, by decide⟩
  obtain ⟨k, hk⟩ := addAttribute_property 12 28 (g (.number v))
    (show (braces 12 28 quoted).significant = [quoted] from rfl) ⟨rfl, by decide⟩
  rw [hnumeral] at hg
  rw [hquoted] at hk
  simp [huse, hg, hk, Except.map, bind, Except.bind]

theorem visitTag_beyondTag (s : ScanState) : beyondTag.visitTag {} [] beyondFile s =
    ({ s with fault := some (.literal .notCodePoint) }, .stop) := by
  have hname : beyondTag.child? "name" = some (name "identifier" 1 2) := rfl
  have htext : (name "identifier" 1 2).text beyond = ['A'] := by cbv
  have hq : (name "identifier" 1 2).qualifiedName beyond = .ok "A" := by
    rw [qualifiedName_identifier, htext]
  have ha : ScanConfig.accepts {} [] "A" = .ok true := by cbv
  have hf : beyondTag.acceptedUse? {} [] beyondFile (name "identifier" 1 2) =
      .error (.literal .notCodePoint) := by
    simp [Node.acceptedUse?, beyondFile, hq, ha, use_beyondTag, bind, Except.bind]
  have ht : beyondTag.isTag = true := rfl
  simp [Node.visitTag_of_isTag, ht, Node.recordTag, hname, hf]

theorem scan_beyond (r : Report) :
    (scan {} beyondFile (.ok beyondRoot) r).2 = .aborted (.literal .notCodePoint) := by
  have hcheck : beyondRoot.check beyond = .ok beyondRoot := by
    refine Node.check_eq_ok rfl ?_
    have hkind : ∀ n ∈ beyondRoot.nodes, (n.kind == "jsx_element") = false := by decide
    intro n hn
    simp [Node.isUnbalanced, Node.imbalance?, hkind n hn]
  have hi : beyondRoot.importTable beyond = .ok [] := rfl
  have hv : ∀ s, beyondRoot.visitTag {} [] beyondFile s = (s, .proceed) := fun _ => rfl
  have hc : beyondRoot.children = [beyondTag] := rfl
  simp only [scan, Except.bind, show beyondFile.source = beyond from rfl, hcheck, Node.scanTree, hi,
    walk]
  simp [walkStack, hv, hc, visitTag_beyondTag]

def beyondBatch : BatchFile := { name := "beyond.jsx", bytes := some beyond }

def parseBeyond : Source → Except ParseFailure Node := fun _ => .ok beyondRoot

theorem source?_beyondBatch : beyondBatch.source? = some beyondFile := by cbv

theorem abort_beyond : (scanFiles {} parseBeyond [] [beyondBatch]).abort =
    some ("beyond.jsx", .literal .notCodePoint) := by
  have hf : beyondBatch.fault? {} parseBeyond = some (.literal .notCodePoint) := by
    simp [BatchFile.fault?, source?_beyondBatch, parseBeyond, scan_beyond]
  simp only [scanFiles, Batch.scanAll, Batch.scanOne_of_fault _ hf]
  rfl

end Sample

/-- Numeral and escape are tokens, but the escape is no code point. Its fault, which is not that of a
shape, aborts the scan and ends the batch. -/
theorem scan_faults_arise_beyond :
    (∀ n ∈ Sample.beyondRoot.nodes, n.IsLexed Sample.beyond) ∧
    (scan {} Sample.beyondFile (.ok Sample.beyondRoot) []).2 = .aborted (.literal .notCodePoint) ∧
    (Fault.literal .notCodePoint).Arises {} Sample.beyond Sample.beyondRoot ∧
    (scanFiles {} Sample.parseBeyond [] [Sample.beyondBatch]).abort =
      some ("beyond.jsx", .literal .notCodePoint) ∧
    ∃ b ∈ [Sample.beyondBatch], b.name = "beyond.jsx" ∧ ∃ f root, b.source? = some f ∧
      Sample.parseBeyond f.source = .ok root ∧
      (Fault.literal .notCodePoint).Arises {} f.source root := by
  have hscan := Sample.scan_beyond []
  have hfaults := scan_faults_arise {} Sample.parseBeyond []
  refine ⟨Sample.beyondRoot_isLexed, hscan, hfaults.1 Sample.beyondFile _ _
    Sample.beyondRoot_isLexed hscan, Sample.abort_beyond, hfaults.2 _ _ _ ?_ Sample.abort_beyond⟩
  intro b hb f hsource
  obtain rfl := List.mem_singleton.1 hb
  obtain rfl := Option.some.inj (Sample.source?_beyondBatch.symm.trans hsource)
  refine ⟨fun _ e => (by cases e), ?_⟩
  intro root hroot
  obtain rfl := Except.ok.inj hroot
  exact Sample.beyondRoot_isLexed

end MarkupCensus
