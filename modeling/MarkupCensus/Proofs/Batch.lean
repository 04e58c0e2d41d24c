import MarkupCensus.Proofs.Usages
import MarkupCensus.Scan.Batch

namespace MarkupCensus

theorem Report.record_eq_run (r : Report) (us : List TagUse) :
    r.record us = Report.run (us.map fun u => .add u.name u.use) r := by
  rw [Report.run, List.foldl_map]
  rfl

/-- Merging a private report is recording its uses. -/
theorem Report.merge_record (r : Report) (us : List TagUse) :
    Report.merge r (Report.record [] us) = r.record us := by
  rw [Report.record_eq_run, Report.record_eq_run]
  exact Report.merge_run_of_distinct _ Report.Distinct.nil r

theorem ScanEnd.ofRefusal_cases (failure : ParseFailure) :
    ofRefusal failure = .unparsable failure ∨ ∃ run, ofRefusal failure = .aborted (.illFormed run) := by
  cases failure with
  | malformed position => exact Or.inl rfl
  | unclosed name position => exact Or.inl rfl
  | illFormed run => exact Or.inr ⟨run, rfl⟩

/-- A source that is refused ends its scan at once. -/
theorem scan_of_refused {config : ScanConfig} {f : SourceFile} {parsed : Except ParseFailure Node}
    {failure : ParseFailure} (h : parsed.bind (·.check f.source) = .error failure) (r : Report) :
    scan config f parsed r = (r, .ofRefusal failure) := by
  rw [scan, h]

theorem refused_of_unparsable {config : ScanConfig} {f : SourceFile}
    {parsed : Except ParseFailure Node} {r : Report} {failure : ParseFailure}
    (h : (scan config f parsed r).2 = .unparsable failure) :
    parsed.bind (·.check f.source) = .error failure := by
  unfold scan at h
  cases hc : parsed.bind (·.check f.source) with
  | error e =>
    simp only [hc] at h
    rcases ScanEnd.ofRefusal_cases e with he | ⟨run, he⟩
    · rw [ScanEnd.unparsable.inj (he.symm.trans h)]
    · cases he.symm.trans h
  | ok root =>
    simp only [hc, Node.scanTree] at h
    split at h
    · cases h
    · simp only at h
      split at h <;> cases h

theorem not_refused_of_complete {config : ScanConfig} {f : SourceFile}
    {parsed : Except ParseFailure Node} {r : Report} (h : (scan config f parsed r).2 = .complete) :
    ∃ root, parsed.bind (·.check f.source) = .ok root := by
  cases hc : parsed.bind (·.check f.source) with
  | error e =>
    rw [scan_of_refused hc] at h
    rcases ScanEnd.ofRefusal_cases e with he | ⟨run, he⟩ <;> cases he.symm.trans h
  | ok root => exact ⟨root, rfl⟩

/-- Scans sources straight into one report, one after another. -/
def scanEach (config : ScanConfig) (parse : Source → Except ParseFailure Node) (r : Report)
    (fs : List SourceFile) : Report :=
  fs.foldl (fun r f => (scan config f (parse f.source) r).1) r

namespace BatchFile

/-- The source of a file that can be read and decoded. -/
def source? (b : BatchFile) : Option SourceFile :=
  (b.bytes.bind sourceOf?).map fun src => { file := b.name, source := src }

/-- A file that can be read, decoded and parsed. -/
def isParsable (parse : Source → Except ParseFailure Node) (b : BatchFile) : Bool :=
  b.source?.any fun f => ((parse f.source).bind (·.check f.source)).toBool

/-- The fault that ends the scan of a file, if there is one. -/
def fault? (config : ScanConfig) (parse : Source → Except ParseFailure Node) (b : BatchFile) :
    Option Fault :=
  b.source?.bind fun f =>
    match (scan config f (parse f.source) []).2 with
    | .aborted fault => some fault
    | _ => none

end BatchFile

namespace Batch

variable {config : ScanConfig} {parse : Source → Except ParseFailure Node}

/-- What a batch comes to after further files, none of which aborts it. -/
structure Continues (config : ScanConfig) (parse : Source → Except ParseFailure Node) (b : Batch)
    (files : List BatchFile) (b' : Batch) : Prop where
  abort : b'.abort = none
  report : b'.report = scanEach config parse b.report (files.filterMap BatchFile.source?)
  failed : b'.troubles.map Trouble.name =
    b.troubles.map Trouble.name ++ (files.filter fun f => !f.isParsable parse).map BatchFile.name
  counted : b'.scanned + b'.troubles.length = b.scanned + b.troubles.length + files.length

theorem Continues.refl {b : Batch} (h : b.abort = none) : Continues config parse b [] b where
  abort := h
  report := rfl
  failed := by simp
  counted := rfl

theorem Continues.trans {b b' b'' : Batch} {fs gs : List BatchFile}
    (h : Continues config parse b fs b') (h' : Continues config parse b' gs b'') :
    Continues config parse b (fs ++ gs) b'' where
  abort := h'.abort
  report := by
    rw [h'.report, h.report, List.filterMap_append, scanEach, scanEach, scanEach, List.foldl_append]
  failed := by
    rw [h'.failed, h.failed, List.filter_append, List.map_append, List.append_assoc]
  counted := by
    rw [h'.counted, h.counted, List.length_append, Nat.add_assoc]

/-- A file whose scan completes might as well have been scanned straight into the report. -/
theorem scanOne_eq (b : Batch) (f : BatchFile) : scanOne config parse b f =
    match f.source? with
    | none => { b with begun := b.begun + 1, troubles := b.troubles ++ [.unreadable f.name] }
    | some sf =>
      match (scan config sf (parse sf.source) []).2 with
      | .unparsable _ =>
        { b with begun := b.begun + 1, troubles := b.troubles ++ [.unparsable f.name] }
      | .aborted fault => { b with begun := b.begun + 1, abort := some (f.name, fault) }
      | .complete =>
        { b with
          begun := b.begun + 1
          report := (scan config sf (parse sf.source) b.report).1
          scanned := b.scanned + 1 } := by
  simp only [scanOne, BatchFile.source?]
  cases f.bytes.bind sourceOf? with
  | none => rfl
  | some src =>
    have hd := scan_eq_record config ⟨f.name, src⟩ (parse src) b.report
    have hp := scan_eq_record config ⟨f.name, src⟩ (parse src) []
    simp only [Option.map_some, hd]
    cases he : scan config ⟨f.name, src⟩ (parse src) [] with
    | mk r e =>
      rw [he] at hp
      cases e with
      -- the private report holds the uses of the file, and merging it records them
      | complete => simp only [(Prod.mk.inj hp).1, Report.merge_record]
      | unparsable failure => rfl
      | aborted fault => rfl

theorem scanOne_continues {b : Batch} {f : BatchFile} (hb : b.abort = none)
    (hf : f.fault? config parse = none) :
    Continues config parse b [f] (scanOne config parse b f) := by
  rw [scanOne_eq]
  cases hs : f.source? with
  | none =>
    have hp : f.isParsable parse = false := by simp [BatchFile.isParsable, hs]
    exact ⟨hb, by simp [scanEach, hs], by simp [hp, Trouble.name], by simp; omega⟩
  | some sf =>
    simp only [BatchFile.fault?, hs, Option.bind_some] at hf
    cases he : (scan config sf (parse sf.source) []).2 with
    | aborted fault => simp [he] at hf
    | unparsable failure =>
      -- a refused source leaves no trace in the direct scan either
      have hc := refused_of_unparsable he
      have hp : f.isParsable parse = false := by simp [BatchFile.isParsable, hs, hc, Except.toBool]
      have hr : (scan config sf (parse sf.source) b.report).1 = b.report := by
        rw [scan_of_refused hc]
      simp only [he]
      exact ⟨hb, by simp [scanEach, hs, hr], by simp [hp, Trouble.name], by simp; omega⟩
    | complete =>
      obtain ⟨root, hc⟩ := not_refused_of_complete he
      have hp : f.isParsable parse = true := by simp [BatchFile.isParsable, hs, hc, Except.toBool]
      simp only [he]
      exact ⟨hb, by simp [scanEach, hs], by simp [hp], by simp; omega⟩

/-- The fault of a file is all that a batch keeps of it. -/
theorem scanOne_of_fault {f : BatchFile} {fault : Fault} (b : Batch)
    (hf : f.fault? config parse = some fault) : scanOne config parse b f =
      { b with begun := b.begun + 1, abort := some (f.name, fault) } := by
  obtain ⟨sf, hs, hf⟩ := Option.bind_eq_some_iff.1 hf
  rw [scanOne_eq, hs]
  split at hf
  · next he =>
    obtain rfl := Option.some.inj hf
    simp only [he]
  · cases hf

theorem scanAll_continues (files : List BatchFile) {b : Batch} (hb : b.abort = none)
    (hf : ∀ f ∈ files, f.fault? config parse = none) :
    Continues config parse b files (scanAll config parse b files) := by
  induction files generalizing b with
  | nil => exact .refl hb
  | cons f fs ih =>
    have h := scanOne_continues hb (hf f List.mem_cons_self)
    have h' := ih h.abort fun g hg => hf g (List.mem_cons_of_mem f hg)
    simpa [scanAll, hb] using h.trans h'

theorem scanAll_of_abort {b : Batch} {a : String × Fault} (h : b.abort = some a)
    (files : List BatchFile) : scanAll config parse b files = b := by
  cases files with
  | nil => rfl
  | cons f fs => simp [scanAll, h]

theorem scanAll_append (fs gs : List BatchFile) (b : Batch) :
    scanAll config parse b (fs ++ gs) = scanAll config parse (scanAll config parse b fs) gs := by
  induction fs generalizing b with
  | nil => rfl
  | cons f fs ih =>
    cases h : b.abort with
    | none => simpa [scanAll, h] using ih (scanOne config parse b f)
    | some a => rw [scanAll_of_abort h, scanAll_of_abort h, scanAll_of_abort h]

/-- The first file with a fault ends the batch. -/
theorem scanAll_of_fault {before : List BatchFile} {f : BatchFile} {fault : Fault} {b : Batch}
    (hb : b.abort = none) (hbefore : ∀ g ∈ before, g.fault? config parse = none)
    (hf : f.fault? config parse = some fault) (after : List BatchFile) :
    scanAll config parse b (before ++ f :: after) =
      { scanAll config parse b before with
        begun := (scanAll config parse b before).begun + 1
        abort := some (f.name, fault) } := by
  have h := (scanAll_continues before hb hbefore).abort
  rw [scanAll_append]
  simp only [scanAll, h, Option.isSome_none, Bool.false_eq_true, if_false, scanOne_of_fault _ hf]
  exact scanAll_of_abort rfl after

end Batch

/-- A batch leaves the report that scanning its readable files one after another leaves, tells which
files failed and counts every file once. A file with a fault ends it, and then the report is that of
the files before. -/
theorem scanFiles_eq_scanEach (config : ScanConfig) (parse : Source → Except ParseFailure Node)
    (r : Report) (files : List BatchFile) :
    ((∀ f ∈ files, f.fault? config parse = none) →
      (scanFiles config parse r files).abort = none ∧
      (scanFiles config parse r files).report =
        scanEach config parse r (files.filterMap BatchFile.source?) ∧
      (scanFiles config parse r files).troubles.map Trouble.name =
        (files.filter fun f => !f.isParsable parse).map BatchFile.name ∧
      (scanFiles config parse r files).scanned + (scanFiles config parse r files).troubles.length =
        files.length) ∧
    ∀ before f after fault, files = before ++ f :: after →
      (∀ g ∈ before, g.fault? config parse = none) → f.fault? config parse = some fault →
      (scanFiles config parse r files).abort = some (f.name, fault) ∧
      (scanFiles config parse r files).report = (scanFiles config parse r before).report := by
  constructor
  · intro hf
    have h := Batch.scanAll_continues (b := { report := r }) files rfl hf
    exact ⟨h.abort, h.report, by simpa [scanFiles] using h.failed,
      by simpa [scanFiles] using h.counted⟩
  · rintro before f after fault rfl hbefore hf
    have h := Batch.scanAll_of_fault (b := { report := r }) rfl hbefore hf after
    rw [scanFiles, h]
    exact ⟨rfl, rfl⟩

namespace Sample

def name (kind : String) (start stop : Nat) : Node :=
  { kind := kind, start := start, stop := stop, role := some "name" }

/-- A tag that consists of its name. -/
def tag (kind : String) (start stop : Nat) : Node :=
  { kind := "jsx_self_closing_element", start := start - 1, stop := stop + 2
    children := [name kind start stop] }

/-- The text `<A/>`. -/
def plain : Source := [0x3C, 0x41, 0x2F, 0x3E]

/-- The text `<A/>;<b:c/>`, whose second name cannot be read. -/
def faulty : Source := plain ++ [0x3B, 0x3C, 0x62, 0x3A, 0x63, 0x2F, 0x3E]

/-- The tree of either text. -/
def root (src : Source) : Node :=
  { kind := "program", start := 0, stop := src.length
    children :=
      if src = plain then [tag "identifier" 1 2]
      else [tag "identifier" 1 2, tag "jsx_namespace_name" 6 9] }

def parse (src : Source) : Except ParseFailure Node := .ok (root src)

def missingFile : BatchFile := { name := "missing.jsx", bytes := none }

/-- A file whose bytes are no text. -/
def brokenFile : BatchFile := { name := "broken.jsx", bytes := some (plain ++ [0xFF]) }

def plainFile : BatchFile := { name := "plain.jsx", bytes := some plain }

/-- A file that starts with a byte order mark. -/
def markedFile : BatchFile := { name := "marked.jsx", bytes := some ([0xEF, 0xBB, 0xBF] ++ plain) }

def faultyFile : BatchFile := { name := "faulty.jsx", bytes := some faulty }

def filesBefore : List BatchFile := [missingFile, plainFile, brokenFile, markedFile]

def fault : Fault := .shape .name "jsx_namespace_name" ⟨1, 7⟩

theorem check_parse (src : Source) : (parse src).bind (·.check src) = .ok (root src) := by
  have hroot : (root src).hasError = false ∧ (root src).unbalanced? src = none := by
    rw [root]
    split <;> simp [Node.unbalanced?, searchStack, Node.isUnbalanced, Node.imbalance?, Node.hasError,
      Node.anyError, tag, name, Node.childrenWhere]
  simp [parse, Except.bind, Node.check, hroot]

/-- The mark is left out, and what is no text is no source. -/
theorem source?_filesBefore : filesBefore.map BatchFile.source? =
    [none, some ⟨"plain.jsx", plain⟩, none, some ⟨"marked.jsx", plain⟩] := by cbv

@[simp] theorem children_tag (kind : String) (start stop : Nat) :
    (tag kind start stop).children = [name kind start stop] := rfl

@[simp] theorem children_name (kind : String) (start stop : Nat) :
    (name kind start stop).children = [] := rfl

theorem visitTag_root (f : SourceFile) (s : ScanState) (src : Source) :
    (root src).visitTag {} [] f s = (s, .proceed) := rfl

theorem visitTag_name (f : SourceFile) (s : ScanState) :
    (name "identifier" 1 2).visitTag {} [] f s = (s, .proceed) := rfl

theorem visitTag_tag (f : SourceFile) (s : ScanState) (kind : String) (start stop : Nat) :
    (tag kind start stop).visitTag {} [] f s =
      match (tag kind start stop).acceptedUse? {} [] f (name kind start stop) with
      | .error fault => ({ s with fault := some fault }, .stop)
      | .ok none => (s, .skip)
      | .ok (some (qualified, use)) =>
        ({ s with report := s.report.add qualified use }, .proceed) := by
  have hname : (tag kind start stop).child? "name" = some (name kind start stop) := rfl
  rw [Node.visitTag_of_isTag {} [] f rfl]
  simp only [Node.recordTag, hname]
  rcases (tag kind start stop).acceptedUse? {} [] f (name kind start stop) with
    fault | _ | ⟨qualified, use⟩ <;> rfl

theorem fault?_of_plain {b : BatchFile} {file : String} (h : b.source? = some ⟨file, plain⟩) :
    b.fault? {} parse = none := by
  have hi : (root plain).importTable plain = .ok [] := rfl
  have hc : (root plain).children = [tag "identifier" 1 2] := rfl
  have ha : (tag "identifier" 1 2).acceptedUse? {} [] ⟨file, plain⟩ (name "identifier" 1 2) =
      .ok (some ("A", { location := ⟨file, 1, 1⟩ })) := by cbv
  simp only [BatchFile.fault?, h, Option.bind_some, scan, check_parse, Node.scanTree, hi, walk]
  simp [walkStack, visitTag_root, visitTag_tag, visitTag_name, hc, ha]

theorem fault?_filesBefore : ∀ f ∈ filesBefore, f.fault? {} parse = none := by
  have hsources := source?_filesBefore
  simp only [filesBefore, List.map_cons, List.map_nil, List.cons.injEq, and_true] at hsources
  obtain ⟨hmissing, hplain, hbroken, hmarked⟩ := hsources
  have hnone (b : BatchFile) (h : b.source? = none) : b.fault? {} parse = none := by
    rw [BatchFile.fault?, h]
    rfl
  simp [filesBefore, fault?_of_plain hplain, fault?_of_plain hmarked, hnone _ hmissing,
    hnone _ hbroken]

theorem fault?_faultyFile : faultyFile.fault? {} parse = some fault := by
  have hs : faultyFile.source? = some ⟨"faulty.jsx", faulty⟩ := by cbv
  have hi : (root faulty).importTable faulty = .ok [] := rfl
  have hc : (root faulty).children = [tag "identifier" 1 2, tag "jsx_namespace_name" 6 9] := rfl
  have ha : (tag "identifier" 1 2).acceptedUse? {} [] ⟨"faulty.jsx", faulty⟩
      (name "identifier" 1 2) = .ok (some ("A", { location := ⟨"faulty.jsx", 1, 1⟩ })) := by cbv
  have hb : (tag "jsx_namespace_name" 6 9).acceptedUse? {} [] ⟨"faulty.jsx", faulty⟩
      (name "jsx_namespace_name" 6 9) = .error fault := by
    rw [Node.acceptedUse?, Node.qualifiedName]
    decide
  simp only [BatchFile.fault?, hs, Option.bind_some, scan, check_parse, Node.scanTree, hi, walk]
  simp [walkStack, visitTag_root, visitTag_tag, visitTag_name, hc, ha, hb]

end Sample

/-- A file that is not there and one that is no text are left out, and a mark at the start of a file is
not scanned. A file that aborts the batch after one of its tags was accepted leaves nothing behind. -/
theorem scanFiles_missing_plain_faulty :
    (scanFiles {} Sample.parse [] Sample.filesBefore).troubles.map Trouble.name =
      ["missing.jsx", "broken.jsx"] ∧
    (scanFiles {} Sample.parse [] Sample.filesBefore).report = scanEach {} Sample.parse []
      [⟨"plain.jsx", Sample.plain⟩, ⟨"marked.jsx", Sample.plain⟩] ∧
    (scanFiles {} Sample.parse [] (Sample.filesBefore ++ [Sample.faultyFile])).abort =
      some ("faulty.jsx", Sample.fault) ∧
    (scanFiles {} Sample.parse [] (Sample.filesBefore ++ [Sample.faultyFile])).report =
      (scanFiles {} Sample.parse [] Sample.filesBefore).report := by
  have hsources := Sample.source?_filesBefore
  simp only [Sample.filesBefore, List.map_cons, List.map_nil, List.cons.injEq, and_true] at hsources
  obtain ⟨hmissing, hplain, hbroken, hmarked⟩ := hsources
  have hfiles := (scanFiles_eq_scanEach {} Sample.parse [] Sample.filesBefore).1
    Sample.fault?_filesBefore
  refine ⟨?_, ?_, (scanFiles_eq_scanEach {} Sample.parse [] _).2 Sample.filesBefore Sample.faultyFile
    [] Sample.fault rfl Sample.fault?_filesBefore Sample.fault?_faultyFile⟩
  · have hparsed : (Except.ok (Sample.root Sample.plain) : Except ParseFailure Node).toBool = true := rfl
    rw [hfiles.2.2.1]
    simp only [Sample.filesBefore, List.filter, BatchFile.isParsable, hmissing, hplain, hbroken,
      hmarked, Option.any_some, Option.any_none, Sample.check_parse, hparsed, Bool.not_false,
      Bool.not_true]
    rfl
  · rw [hfiles.2.1]
    simp only [Sample.filesBefore, List.filterMap_cons, List.filterMap_nil, hmissing, hplain, hbroken,
      hmarked]

end MarkupCensus
