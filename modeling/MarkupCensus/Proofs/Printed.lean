import MarkupCensus.Proofs.History
import MarkupCensus.Proofs.JsonText
import MarkupCensus.Proofs.Output

namespace MarkupCensus

namespace Numeral

theorem isRounded_decimal? {cs : List Char} {x : Binary64} (h : decimal? cs = some x) : x.IsRounded := by
  unfold decimal? at h
  split at h
  split_ifs at h
  · cases h
    trivial
  · cases h
    trivial
  · unfold unsigned? at h
    dsimp only at h
    split_ifs at h
    obtain ⟨e, -, rfl⟩ := Option.map_eq_some_iff.1 h
    exact Binary64.isRounded_ofDecimal _ _ _

/-- The values of numeric literals are rounded. -/
theorem isRounded_value {text : List Char} {n : Number} (h : value text = .ok n) :
    (Value.number n).IsRounded := by
  unfold value at h
  dsimp only at h
  split at h
  · split at h
    · cases h
      trivial
    · cases h
  · split at h
    · cases h
      trivial
    · split at h
      next x hx =>
        cases h
        unfold ofBinary64
        split
        · split
          · trivial
          · exact isRounded_decimal? hx
        · exact isRounded_decimal? hx
      next => cases h

end Numeral

/-- Whether the values of all props are rounded. -/
def Instance.IsRounded (use : Instance) : Prop := ∀ p ∈ use.props, p.2.IsRounded

namespace Node

variable {src : Source} {n : Node} {v : Value}

theorem isRounded_literalValue {markup : Bool} (h : n.literalValue src markup = .ok v) :
    v.IsRounded := by
  unfold literalValue at h
  split_ifs at h
  · obtain ⟨t, -, rfl⟩ := exists_ok_of_map_ok (ok_of_mapError_ok h)
    trivial
  · obtain ⟨t, -, rfl⟩ := exists_ok_of_map_ok (ok_of_mapError_ok h)
    trivial
  · obtain ⟨x, hx, rfl⟩ := exists_ok_of_map_ok (ok_of_mapError_ok h)
    exact Numeral.isRounded_value hx
  -- booleans, null and regular expressions
  · cases h
    trivial
  · cases h
    trivial
  · cases h
    trivial
  · cases h
    trivial
  · cases h

theorem isRounded_attributeValue {value : Option Node} (h : attributeValue src value = .ok v) :
    v.IsRounded := by
  unfold attributeValue at h
  split at h
  · cases h
    trivial
  · split_ifs at h
    · exact isRounded_literalValue h
    · unfold bracedValue at h
      split at h
      · cases h
        trivial
      · dsimp only at h
        split_ifs at h
        · exact isRounded_literalValue h
        · cases h
          trivial
    · cases h

theorem isRounded_addAttribute {use after : Instance} (h : n.addAttribute src use = .ok after)
    (hu : use.IsRounded) : after.IsRounded := by
  unfold addAttribute at h
  split_ifs at h
  · obtain ⟨⟨name, v⟩, hnamed, hafter⟩ := exists_ok_of_bind_ok h
    cases hafter
    unfold namedAttribute at hnamed
    split at hnamed
    · cases hnamed
    · obtain ⟨w, hw, heq⟩ := exists_ok_of_bind_ok hnamed
      cases heq
      intro p hp
      rcases OrderedMap.mem_alter hp with hp | rfl | ⟨_, _, rfl⟩
      · exact hu p hp
      · exact isRounded_attributeValue hw
      · exact isRounded_attributeValue hw
  · cases h
    exact hu
  · cases h

theorem isRounded_use {file : String} {use : Instance} (h : n.use src file = .ok use) :
    use.IsRounded := by
  unfold Node.use at h
  split at h
  · cases h
  -- the props read so far are rounded, whichever attributes are left
  have hfold : ∀ (attributes : List Node) (before : Instance),
      attributes.foldlM (addAttribute src) before = .ok use → before.IsRounded → use.IsRounded := by
    intro attributes
    induction attributes with
    | nil =>
      intro before h hb
      cases h
      exact hb
    | cons a attributes ih =>
      intro before h hb
      rw [List.foldlM_cons] at h
      obtain ⟨next, ha, h⟩ := exists_ok_of_bind_ok h
      exact ih next h (isRounded_addAttribute ha hb)
  exact hfold _ _ h (by simp [Instance.IsRounded])

end Node

namespace Report

/-- Whether the values in all uses of a report are rounded. -/
def IsRounded (r : Report) : Prop := r.Each fun _ c => ∀ use ∈ c.instances, use.IsRounded

theorem IsRounded.add {r : Report} (h : r.IsRounded) (name : String) {use : Instance}
    (hu : use.IsRounded) : (r.add name use).IsRounded := by
  have hroot : Each (fun _ c => ∀ use ∈ c.instances, use.IsRounded)
      (Component.components ⟨none, some r⟩) := h
  rw [IsRounded, Report.add, alter]
  refine Each.alter ?_ ?_ hroot
  · intro key _ rest c hc
    have hbefore : ∀ use ∈ c.instances, use.IsRounded := by
      rcases hc with rfl | hc
      · simp [Component.instances]
      · exact hc
    cases rest with
    | nil =>
      intro v hv
      rcases List.mem_append.1 hv with hv | hv
      · exact hbefore v hv
      · rw [List.mem_singleton.1 hv]
        exact hu
    | cons s rest => exact hbefore
  · intro c hc
    exact hc

/-- Only rounded values are recorded. -/
theorem isRounded_record (us : List TagUse) : (record [] us).IsRounded := by
  have h : ∀ r : Report, r.IsRounded → (r.record us).IsRounded := by
    induction us with
    | nil => exact fun r hr => hr
    | cons u us ih => exact fun r hr => ih _ (hr.add u.name (Node.isRounded_use u.extracted))
  exact h [] Each.nil

end Report

namespace Document

theorem itemValues_eq (ds : List Document) : itemValues ds = ds.flatMap values := by
  induction ds with
  | nil => rfl
  | cons d ds ih => rw [itemValues, ih, List.flatMap_cons]

theorem fieldValues_eq (fs : List (String × Document)) :
    fieldValues fs = fs.flatMap fun f => f.2.values := by
  induction fs with
  | nil => rfl
  | cons f fs ih => rw [fieldValues, ih, List.flatMap_cons]

theorem values_ofValue (v : Value) : (ofValue v).values = [v] := by cases v <;> rfl

theorem isRounded_ofInstance {use : Instance} (h : use.IsRounded) :
    ∀ v ∈ (ofInstance use).values, v.IsRounded := by
  intro v hv
  simp only [ofInstance, values, fieldValues_eq, List.flatMap_cons, List.flatMap_map, values_ofValue,
    List.flatMap_nil, ofLocation, ofString, ofNat, List.mem_append, List.mem_flatMap,
    List.mem_singleton, List.append_nil] at hv
  rcases hv with ⟨p, hp, rfl⟩ | rfl | rfl | rfl | rfl
  · exact h p hp
  all_goals trivial

theorem ofComponent_eq (c : Component) : ofComponent c =
    .object ((if c.instances.isEmpty then [] else [("instances", .list (c.instances.map ofInstance))])
      ++ if c.components.isEmpty then [] else [("components", .object (ofReport c.components))]) := by
  obtain ⟨uses, below⟩ := c
  cases below with
  | none => rfl
  | some cs => rfl

theorem mem_values_ofComponent {c : Component} {v : Value} (h : v ∈ (ofComponent c).values) :
    (∃ use ∈ c.instances, v ∈ (ofInstance use).values) ∨ v ∈ fieldValues (ofReport c.components) := by
  rw [ofComponent_eq, values, fieldValues_eq, List.flatMap_append] at h
  rcases List.mem_append.1 h with h | h
  · left
    split at h
    · simp at h
    · simpa [values, itemValues_eq, List.flatMap_map] using h
  · right
    split at h
    · simp at h
    · simpa [values] using h

theorem isRounded_ofReport {r : Report} (h : r.IsRounded) :
    ∀ v ∈ fieldValues (ofReport r), v.IsRounded := by
  induction h with
  | @intro r here below ih =>
    have hfields : fieldValues (ofReport r) = r.flatMap fun e => (ofComponent e.2).values := by
      clear here below ih
      induction r with
      | nil => rfl
      | cons e r ih => rw [ofReport, fieldValues, ih, List.flatMap_cons]
    intro v hv
    rw [hfields] at hv
    obtain ⟨e, he, hv⟩ := List.mem_flatMap.1 hv
    rcases mem_values_ofComponent hv with ⟨use, huse, hv⟩ | hv
    · exact isRounded_ofInstance (here e he use huse) v hv
    · exact ih e he v hv

theorem isRounded_ofProcessed {p : Processor} {r : Report} (h : r.IsRounded) :
    ∀ v ∈ (ofProcessed (p.run r)).values, v.IsRounded := by
  have hcounts (cs : List Count) : ∀ v ∈ (ofCounts cs).values, v.IsRounded := by
    intro v hv
    simp only [ofCounts, values, fieldValues_eq, List.flatMap_map, ofNat, List.mem_flatMap,
      List.mem_singleton] at hv
    obtain ⟨c, -, rfl⟩ := hv
    trivial
  intro v hv
  cases p with
  | rawReport => exact isRounded_ofReport h v hv
  | countComponents => exact hcounts r.counts v hv
  | countComponentsAndProps =>
    simp only [Processor.run, ofProcessed, values, fieldValues_eq, List.flatMap_map, ofUsage,
      List.flatMap_cons, List.flatMap_nil, List.append_nil, List.mem_flatMap, List.mem_append,
      ofNat, List.mem_singleton] at hv
    obtain ⟨u, -, rfl | hv⟩ := hv
    · trivial
    · exact hcounts u.2.props v hv

end Document

/-- A string is echoed as it is. -/
theorem Terminal.encodable?_ofString (text : String) :
    encodable? (Text.ofString text) = some (Text.ofString text ++ [.ofChar '\n']) := by
  have hno : (Text.ofString text).hasSurrogate = false := by
    simpa using Text.isSome_chars? (Text.ofString text)
  rw [encodable?, hno]
  rfl

namespace Command

variable {w : World} {o : Options}

theorem Prepared.isRounded_document (s : Prepared w o) : ∀ v ∈ s.document.values, v.IsRounded := by
  have hreport : s.batch.report = Report.record [] (ScanCall.batch s.config w.parse s.sources).uses :=
    ScanCall.run_eq_record (.batch s.config w.parse s.sources) []
  apply Document.isRounded_ofProcessed
  rw [hreport]
  exact Report.isRounded_record _

/-- Without an output file, what is echoed of the document's text is all that is printed. -/
theorem Prepared.runScan_prints (s : Prepared w o) (habort : s.batch.abort = none)
    (hout : o.output = none) :
    ((runScan w o).code, (runScan w o).stdout) =
      match s.document.text?.bind w.console.echo with
      | some shown => (0, shown)
      | none => (1, []) := by
  obtain ⟨stderr, hfinish⟩ := s.runScan_eq_finish habort
  rw [hfinish, finish, Prepared.document]
  simp only [hout]
  cases (Document.ofProcessed (s.processor.run s.batch.report)).text? with
  | none => rfl
  | some text =>
    rw [Option.bind_some]
    cases hshown : w.console.echo text <;> simp [endPrinting, printed, hshown]

theorem isSome_encodable?_text? (d : Document) :
    (d.text?.bind Terminal.encodable?).isSome = d.isWritable := by
  have hchars := Document.isSome_charsOf_tokens 0 d
  rw [Document.charsOf_tokens_eq] at hchars
  rw [Document.isWritable, ← hchars]
  cases d.text? with
  | none => rfl
  | some text =>
    rw [Option.bind_some, Option.bind_some, Terminal.encodable?, Text.isSome_chars?]
    cases text.hasSurrogate <;> rfl

/-- A scan that nothing aborts succeeds if its document has a text that the standard output takes, as one
in UTF-8 takes all well-formed texts, and prints nothing otherwise. What is printed is a strict JSON text
that reads back as the document, if its texts are well formed and its numbers finite, and no JSON text
otherwise. -/
theorem scan_prints_document (args : List String) (hargs : w.arguments args = .request (.scan o))
    (hout : o.output = none) (s : Prepared w o) (habort : s.batch.abort = none) :
    ((run w args).code = 0 ↔
      ∃ text shown, s.document.text? = some text ∧ w.console.echo text = some shown) ∧
    (w.console.echo = Terminal.encodable? → ((run w args).code = 0 ↔ s.document.isWritable = true)) ∧
    ((run w args).code ≠ 0 → (run w args).code = 1 ∧ (run w args).stdout = []) ∧
    ∀ text, s.document.text? = some text → w.console.echo text = some (text ++ [.ofChar '\n']) →
      Json.readText? (run w args).stdout =
        if s.document.isWritable && s.document.isFinite then some s.document else none := by
  have hrun : run w args = runScan w o := by simp only [run, hargs]
  have hprints := s.runScan_prints habort hout
  have hcode : (runScan w o).code = 0 ↔ (s.document.text?.bind w.console.echo).isSome = true := by
    have := congrArg Prod.fst hprints
    cases hshown : s.document.text?.bind w.console.echo <;> simp_all
  rw [hrun]
  refine ⟨?_, ?_, ?_, ?_⟩
  · rw [hcode, Option.isSome_iff_exists]
    simp only [Option.bind_eq_some_iff]
    exact exists_comm.trans (by simp)
  · intro hecho
    rw [hcode, hecho, isSome_encodable?_text?]
  · intro hfail
    cases hshown : s.document.text?.bind w.console.echo with
    | some shown => exact absurd (hcode.2 (by rw [hshown]; rfl)) hfail
    | none =>
      rw [hshown] at hprints
      exact Prod.mk.inj hprints
  · intro text htext hecho
    rw [htext, Option.bind_some, hecho] at hprints
    rw [(Prod.mk.inj hprints).2]
    exact Json.readText?_of_text? htext s.isRounded_document

namespace Sample

/-- A source with a number, a character beyond the first plane and a control character. -/
def mixedValues : String := "<A b=\x7b1.5e300\x7d c=\x7b'😀\\t'\x7d d/>"

/-- A source with a number that is too large for any finite one. -/
def tooLarge : String := "<A b=\x7b1e999\x7d/>"

end Sample

open MarkupCensus.Command.Sample in
/-- The first source gives a JSON text, unless the standard output has no character beyond the first 256;
the others give a text that is none, or no text at all. -/
theorem scan_prints_document_values :
    Json.readText? (run (project mixedValues) ["scan"]).stdout =
      some (prepared mixedValues Terminal.plain none).document ∧
    (run (project mixedValues latin) ["scan"]).code = 1 ∧
    (run (project tooLarge) ["scan"]).code = 0 ∧
    Json.readText? (run (project tooLarge) ["scan"]).stdout = none ∧
    (run (project halfPair) ["scan"]).code = 1 := by
  have hargs : Invocation.ofArguments ["scan"] = .request (.scan {}) := by decide
  have hmixed : (prepared mixedValues Terminal.plain none).batch.abort.isNone = true ∧
      (prepared mixedValues Terminal.plain none).document.isWritable = true ∧
      (prepared mixedValues Terminal.plain none).document.isFinite = true := by decide +kernel
  have hlatin : (prepared mixedValues latin none).batch.abort.isNone = true ∧
      (run (project mixedValues latin) ["scan"]).code ≠ 0 := by decide +kernel
  have hlarge : (prepared tooLarge Terminal.plain none).batch.abort.isNone = true ∧
      (prepared tooLarge Terminal.plain none).document.isWritable = true ∧
      (prepared tooLarge Terminal.plain none).document.isFinite = false := by decide +kernel
  have hhalf : (prepared halfPair Terminal.plain none).batch.abort.isNone = true ∧
      (prepared halfPair Terminal.plain none).document.isWritable = false := by decide +kernel
  simp only [Option.isNone_iff_eq_none] at hmixed hlatin hlarge hhalf
  refine ⟨?_, ?_, ?_⟩
  · obtain ⟨-, -, -, hread⟩ := scan_prints_document ["scan"] hargs rfl _ hmixed.1
    obtain ⟨text, htext⟩ := Document.isWritable_iff.1 hmixed.2.1
    rw [hread _ htext (Terminal.encodable?_ofString text), hmixed.2.1, hmixed.2.2]
    rfl
  · obtain ⟨-, -, hfail, -⟩ := scan_prints_document ["scan"] hargs rfl _ hlatin.1
    exact (hfail hlatin.2).1
  · obtain ⟨-, hcode, -, hread⟩ := scan_prints_document ["scan"] hargs rfl _ hlarge.1
    obtain ⟨text, htext⟩ := Document.isWritable_iff.1 hlarge.2.1
    obtain ⟨-, hcode', hfail, -⟩ := scan_prints_document ["scan"] hargs rfl _ hhalf.1
    refine ⟨(hcode rfl).2 hlarge.2.1, ?_, (hfail ?_).1⟩
    · rw [hread _ htext (Terminal.encodable?_ofString text), hlarge.2.2, Bool.and_false]
      rfl
    · simp [hcode' rfl, hhalf.2]

end Command

end MarkupCensus
