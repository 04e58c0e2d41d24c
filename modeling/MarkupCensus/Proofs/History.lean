import MarkupCensus.Proofs.Batch
import MarkupCensus.Proofs.Segments

namespace MarkupCensus

/-- A call that adds the uses of some files to a report. -/
inductive ScanCall where
  | single (config : ScanConfig) (f : SourceFile) (parsed : Except ParseFailure Node)
  | batch (config : ScanConfig) (parse : Source → Except ParseFailure Node) (files : List BatchFile)

/-- The files that a batch gets through: all before the first that has a fault. -/
def completedFiles (config : ScanConfig) (parse : Source → Except ParseFailure Node)
    (files : List BatchFile) : List BatchFile :=
  files.takeWhile fun f => (f.fault? config parse).isNone

namespace ScanCall

def config : ScanCall → ScanConfig
  | single config _ _ => config
  | batch config _ _ => config

/-- The report after a call, however the call ends. -/
def run (r : Report) : ScanCall → Report
  | single config f parsed => (scan config f parsed r).1
  | batch config parse files => (scanFiles config parse r files).report

/-- The tags that a call records. -/
def uses : ScanCall → List TagUse
  | single config f parsed => recordedUses config f parsed
  | batch config parse files =>
    ((completedFiles config parse files).filterMap BatchFile.source?).flatMap fun f =>
      recordedUses config f (parse f.source)

/-- The report that calls leave one after another, starting from nothing. -/
def runAll (calls : List ScanCall) : Report := calls.foldl run []

end ScanCall

theorem scanEach_eq_record (config : ScanConfig) (parse : Source → Except ParseFailure Node)
    (r : Report) (fs : List SourceFile) : scanEach config parse r fs =
      r.record (fs.flatMap fun f => recordedUses config f (parse f.source)) := by
  induction fs generalizing r with
  | nil => rfl
  | cons f fs ih =>
    rw [List.flatMap_cons, Report.record_append, ← ih, scanEach, List.foldl_cons, scan_eq_record]
    rfl

theorem Batch.report_scanAll {config : ScanConfig} {parse : Source → Except ParseFailure Node}
    (files : List BatchFile) {b : Batch} (hb : b.abort = none) :
    (scanAll config parse b files).report = scanEach config parse b.report
      ((completedFiles config parse files).filterMap BatchFile.source?) := by
  induction files generalizing b with
  | nil => rfl
  | cons f fs ih =>
    cases hf : f.fault? config parse with
    | none =>
      have h := scanOne_continues hb hf
      have hfs : completedFiles config parse (f :: fs) = [f] ++ completedFiles config parse fs := by
        simp [completedFiles, hf]
      rw [hfs, List.filterMap_append, scanEach, List.foldl_append, ← scanEach, ← scanEach,
        ← h.report, ← ih h.abort]
      simp [scanAll, hb]
    | some fault =>
      have hfs : completedFiles config parse (f :: fs) = [] := by simp [completedFiles, hf]
      have hone := scanOne_of_fault b hf
      simp only [scanAll, hb, Option.isSome_none, Bool.false_eq_true, if_false, hone, hfs]
      rw [scanAll_of_abort rfl]
      rfl

namespace ScanCall

theorem run_eq_record (call : ScanCall) (r : Report) : call.run r = r.record call.uses := by
  cases call with
  | single config f parsed => rw [run, scan_eq_record, uses]
  | batch config parse files =>
    rw [run, scanFiles, Batch.report_scanAll files rfl, scanEach_eq_record]
    rfl

theorem runAll_eq_record (calls : List ScanCall) :
    runAll calls = Report.record [] (calls.flatMap uses) := by
  -- only the first call starts from nothing
  have h : ∀ r : Report, calls.foldl run r = r.record (calls.flatMap uses) := by
    induction calls with
    | nil => exact fun r => rfl
    | cons call calls ih =>
      intro r
      rw [List.foldl_cons, ih, run_eq_record, List.flatMap_cons, Report.record_append]
  exact h []

theorem accepts_of_mem_uses {call : ScanCall} {u : TagUse} (h : u ∈ call.uses) :
    ∃ imports, call.config.accepts imports u.name = .ok true := by
  cases call with
  | single config f parsed => exact accepts_of_mem_recordedUses h
  | batch config parse files =>
    obtain ⟨f, _, hu⟩ := List.mem_flatMap.1 h
    exact accepts_of_mem_recordedUses hu

end ScanCall

namespace Report

theorem instancesAt_record (r : Report) (us : List TagUse) (path : List String) :
    (r.record us).instancesAt path =
      r.instancesAt path ++ (us.filter fun u => segments u.name = path).map TagUse.use := by
  have hrecord : r.record us = r.addAll (us.map fun u => (u.name, u.use)) := by
    rw [record_eq_run, addAll, List.map_map]
    rfl
  rw [hrecord, instancesAt_addAll, List.filter_map, List.map_map]
  rfl

theorem each_proper_record {r : Report} (h : r.Each fun key c => '.' ∉ key.toList ∧ c.Proper)
    (us : List TagUse) : (r.record us).Each fun key c => '.' ∉ key.toList ∧ c.Proper := by
  induction us generalizing r with
  | nil => exact h
  | cons u us ih => exact ih (each_proper_add h u.name u.use)

theorem distinct_record (us : List TagUse) : (record [] us).Distinct := by
  rw [record_eq_run]
  exact distinct_run _ Distinct.nil

/-- Nothing stands below the top level of a report. -/
def IsFlat (r : Report) : Prop := ∀ e ∈ r, e.2.components? = none

theorem IsFlat.each {r : Report} (h : r.IsFlat) : r.Each fun _ c => c.components? = none := by
  refine .intro h ?_
  intro e he
  rw [Component.components, h e he]
  exact Throughout.nil (by simp)

/-- A use under a name without dots stays at the top. -/
theorem IsFlat.add {r : Report} (h : r.IsFlat) {name : String} (hname : isDotted name = false)
    (use : Instance) : (r.add name use).IsFlat := by
  obtain ⟨s, hs⟩ : ∃ s, segments name = [s] := by
    rw [isDotted, decide_eq_false_iff_not, Nat.not_lt] at hname
    have hpos := List.length_pos_iff.2 (segments_ne_nil name)
    exact List.length_eq_one_iff.1 (by omega)
  have hadd : r.add name use =
      OrderedMap.alter r s fun o => Component.addInstance use (o.getD {}) := by
    rw [Report.add, alter, hs]
    rfl
  intro e he
  rw [hadd] at he
  rcases OrderedMap.mem_alter he with he | rfl | ⟨d, hd, rfl⟩
  · exact h e he
  · rfl
  · exact h (s, d) hd

theorem IsFlat.record {r : Report} (h : r.IsFlat) {us : List TagUse}
    (hus : ∀ u ∈ us, isDotted u.name = false) : (r.record us).IsFlat := by
  induction us generalizing r with
  | nil => exact h
  | cons u us ih =>
    have hu := h.add (hus u List.mem_cons_self) u.use
    exact ih hu fun v hv => hus v (List.mem_cons_of_mem u hv)

end Report

/-- What holds of every report that scans leave, however they end. Keys are distinct and without dots,
no field of a component is empty, and every component has a use in itself or below it. The uses at a
path are those of the tags recorded under the name that joins the path by dots, in the order of
recording. If no scan records dotted names, nothing has components. -/
theorem runAll_wellFormed (calls : List ScanCall) :
    (ScanCall.runAll calls).Distinct ∧
    ((ScanCall.runAll calls).Each fun key c => '.' ∉ key.toList ∧ c.Proper) ∧
    (∀ path, path ≠ [] → (∀ s ∈ path, '.' ∉ s.toList) →
      (ScanCall.runAll calls).instancesAt path =
        ((calls.flatMap ScanCall.uses).filter fun u => u.name = ".".intercalate path).map
          TagUse.use) ∧
    ((∀ call ∈ calls, call.config.subComponents = false) →
      (ScanCall.runAll calls).Each fun _ c => c.components? = none) := by
  rw [ScanCall.runAll_eq_record]
  refine ⟨Report.distinct_record _, Report.each_proper_record Report.Each.nil _, ?_, ?_⟩
  · intro path hne hdot
    rw [Report.instancesAt_record, Report.instancesAt_empty, List.nil_append]
    simp only [segments_eq_iff hne hdot]
  · intro hflat
    have hempty : Report.IsFlat [] := by simp [Report.IsFlat]
    refine (hempty.record ?_).each
    intro u hu
    obtain ⟨call, hcall, hu⟩ := List.mem_flatMap.1 hu
    obtain ⟨imports, ha⟩ := ScanCall.accepts_of_mem_uses hu
    obtain ⟨-, hsub | hdotted, -⟩ := ScanConfig.accepts_eq_true_iff.1 ha
    · rw [hflat call hcall] at hsub
      cases hsub
    · exact hdotted

/-- A batch and a single scan that both end in a fault. -/
def Sample.calls : List ScanCall :=
  [.batch { subComponents := false } Sample.parse (Sample.filesBefore ++ [Sample.faultyFile]),
    .single { subComponents := false } ⟨"faulty.jsx", Sample.faulty⟩ (Sample.parse Sample.faulty)]

theorem runAll_wellFormed_of_aborts :
    (ScanCall.runAll Sample.calls).instancesAt ["A"] =
      ((Sample.calls.flatMap ScanCall.uses).filter fun u => u.name = "A").map TagUse.use ∧
    (ScanCall.runAll Sample.calls).Each fun _ c => c.components? = none := by
  obtain ⟨_, _, hpath, hflat⟩ := runAll_wellFormed Sample.calls
  refine ⟨?_, hflat (by simp [Sample.calls, ScanCall.config])⟩
  simpa using hpath ["A"] (by simp) (by simp)

end MarkupCensus
