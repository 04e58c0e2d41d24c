import MarkupCensus.Command.Arguments
import MarkupCensus.Command.Run
import MarkupCensus.Config.EnvFile
import MarkupCensus.Grammar.Program
import MarkupCensus.Proofs.Files
import MarkupCensus.Proofs.Written
import MarkupCensus.Text.CharacterName

namespace MarkupCensus

namespace Document

/-- A document can be written if it has a text without surrogates. -/
theorem isWritable_iff {d : Document} :
    d.isWritable = true ↔ ∃ text : String, d.text? = some (Text.ofString text) := by
  have hchars := isSome_charsOf_tokens 0 d
  constructor
  · intro h
    obtain ⟨cs, hcs⟩ := Option.isSome_iff_exists.1 (hchars.trans h)
    exact ⟨_, text?_of_charsOf hcs⟩
  · rintro ⟨text, htext⟩
    rw [charsOf_tokens_eq, htext, Option.bind_some, Text.chars?_ofString] at hchars
    exact hchars.symm

theorem charsOf_of_text? {d : Document} {text : String} (h : d.text? = some (Text.ofString text)) :
    charsOf (d.tokens 0) = some text.toList := by
  rw [charsOf_tokens_eq, h, Option.bind_some, Text.chars?_ofString]

theorem write_of_text? {d : Document} {text : String} (h : d.text? = some (Text.ofString text)) :
    d.write = (text, none) := by
  rw [write, writeTokens_of_charsOf (charsOf_of_text? h), String.ofList_toList]

theorem write_eq_none_iff (d : Document) : d.write.2 = none ↔ d.isWritable = true := by
  cases h : d.isWritable with
  | true =>
    obtain ⟨text, htext⟩ := isWritable_iff.1 h
    simp [write_of_text? htext]
  | false =>
    have hnone : charsOf (d.tokens 0) = none :=
      Option.isNone_iff_eq_none.1 (Option.isSome_eq_false_iff.1 ((isSome_charsOf_tokens 0 d).trans h))
    obtain ⟨u, hu⟩ := writeTokens_of_charsOf_none hnone
    simp [write, hu]

end Document

/-- Whether a file can be opened for writing, which makes it empty, once its directory has been made. -/
def FileSystem.Opens (files : FileSystem) (path : Path) : Prop :=
  ∃ made opened, files.makeDirectories path.parent = .ok made ∧ made.write path [] = .ok opened

namespace Command

section Ending

variable (code : Nat) (texts : List (Option Text)) (crash : Crash) (stderr : String)
  (files : FileSystem)

@[simp] theorem files_endPrinting : (endPrinting code texts stderr files).files = files := rfl

@[simp] theorem files_endCrashing : (endCrashing crash stderr files).files = files := rfl

@[simp] theorem code_endCrashing : (endCrashing crash stderr files).code = 1 := rfl

@[simp] theorem code_endPrinting_one : (endPrinting 1 texts stderr files).code = 1 := by
  simp [endPrinting]

theorem printed_eq_none_iff : (printed texts).2 = none ↔ ∀ t ∈ texts, t.isSome = true := by
  induction texts with
  | nil => simp [printed]
  | cons t texts ih => cases t <;> simp [printed, ih]

/-- A command that ends well fails all the same if something cannot be printed. -/
theorem code_endPrinting_eq_zero_iff :
    (endPrinting 0 texts stderr files).code = 0 ↔ ∀ t ∈ texts, t.isSome = true := by
  rw [← printed_eq_none_iff]
  simp [endPrinting]

end Ending

/-- What a scan starts from once everything it is asked for has been checked. -/
structure Prepared (w : World) (o : Options) where
  env : Environment
  config : ScanConfig
  processor : Processor
  present : w.files.isPresent (Path.ofString o.root) = true
  loaded : w.loaded = .ok env
  built : (o.scanOptions env.defaults).build w.characters = .ok config
  named : Processor.ofName? o.processor = some processor

namespace Prepared

variable {w : World} {o : Options}

/-- The world and the options leave nothing open. -/
instance : Subsingleton (Prepared w o) where
  allEq := by
    rintro ⟨env, config, processor, -, loaded, built, named⟩
      ⟨env', config', processor', -, loaded', built', named'⟩
    obtain rfl : env = env' := Except.ok.inj (loaded.symm.trans loaded')
    obtain rfl : config = config' := Except.ok.inj (built.symm.trans built')
    obtain rfl : processor = processor' := Option.some.inj (named.symm.trans named')
    rfl

/-- The sources a scan is about to read. -/
def sources (s : Prepared w o) : List BatchFile :=
  let root := Path.ofString o.root
  batchFiles w.files (baseOf w.files root)
    (Search.run { root := root, exclude := o.exclude ++ s.env.defaults.exclude,
                  includeTests := o.includeTests } w.files)

/-- What scanning the sources comes to. -/
def batch (s : Prepared w o) : Batch := scanFiles s.config w.parse [] s.sources

/-- The document that the processor makes of the report. -/
def document (s : Prepared w o) : Document := .ofProcessed (s.processor.run s.batch.report)

/-- Whether the standard output takes the summary that is printed after the document is written. -/
def IsSummarized (s : Prepared w o) (output : Path) : Prop :=
  ∀ t ∈ summary w.console s.batch output, t.isSome = true

/-- A scan that nothing aborts ends with its document, whatever it has to say on the way. -/
theorem runScan_eq_finish (s : Prepared w o) (h : s.batch.abort = none) :
    ∃ stderr, runScan w o = finish w o stderr s.processor s.batch := by
  have hrun : ∃ stderr, scanProject w o s.config s.processor (o.exclude ++ s.env.defaults.exclude) =
      finish w o stderr s.processor s.batch := by
    unfold scanProject
    dsimp only
    split
    next _ _ hsome => cases h.symm.trans hsome
    next _ hsome => cases h.symm.trans hsome
    next => exact ⟨_, rfl⟩
  simpa [runScan, s.present, s.loaded, runChecked, s.built, s.named] using hrun

end Prepared

/-- A scan comes to a document, or it fails and leaves all files as they are. -/
theorem runScan_cases (w : World) (o : Options) :
    (∃ s : Prepared w o, s.batch.abort = none) ∨
      (runScan w o).code ≠ 0 ∧ (runScan w o).files = w.files := by
  -- one split for each thing that is checked, in the order of the checks
  unfold runScan
  split
  · exact Or.inr ⟨by simp, rfl⟩
  next hpresent =>
  split
  · exact Or.inr ⟨by simp, rfl⟩
  next env hloaded =>
  unfold runChecked
  split
  · split
    · exact Or.inr ⟨by simp, rfl⟩
    · exact Or.inr ⟨by simp, rfl⟩
  next config hbuilt =>
  split
  · exact Or.inr ⟨by simp, rfl⟩
  next processor hnamed =>
  let s : Prepared w o := ⟨env, config, processor, by simpa using hpresent, hloaded, hbuilt, hnamed⟩
  unfold scanProject
  dsimp only
  split
  · exact Or.inr ⟨by simp, rfl⟩
  · exact Or.inr ⟨by simp, rfl⟩
  next habort => exact Or.inl ⟨s, habort⟩

theorem writeOutput_of_opens {files : FileSystem} {path : Path} (h : files.Opens path) (d : Document) :
    (writeOutput files path d).2 = d.write.2.map .document ∧
      (writeOutput files path d).1.read? path = some (Utf8.encode d.write.1.toList) := by
  obtain ⟨made, opened, hmade, hopened⟩ := h
  obtain ⟨after, hafter⟩ := FileSystem.write_of_write hopened (Utf8.encode d.write.1.toList)
  simp only [writeOutput, hmade, hafter, true_and]
  exact FileSystem.read?_write hafter

/-- With an output file, a scan ends well if the document could be written to it and the summary could
be printed, and changes no more than the writing did. -/
theorem finish_of_output {w : World} {o : Options} {output : String} (hout : o.output = some output)
    (stderr : String) (p : Processor) (b : Batch) :
    let path := Path.ofString output
    let written := writeOutput w.files path (.ofProcessed (p.run b.report))
    ((finish w o stderr p b).code = 0 ↔
        written.2 = none ∧ ∀ t ∈ summary w.console b path, t.isSome = true) ∧
      (finish w o stderr p b).files = written.1 := by
  simp only [finish, hout]
  split
  next after crash hafter => simp [hafter]
  next after hafter => simp [hafter, code_endPrinting_eq_zero_iff]

/-- A scan with an output file that can be opened succeeds if its document can be written and its summary
printed. In any case the file has been replaced by as much of the document as could be written. -/
theorem Prepared.runScan_of_opens {w : World} {o : Options} (s : Prepared w o)
    (habort : s.batch.abort = none) {output : String} (hout : o.output = some output)
    (hopens : w.files.Opens (Path.ofString output)) :
    ((runScan w o).code = 0 ↔ s.document.isWritable ∧ s.IsSummarized (Path.ofString output)) ∧
      (runScan w o).files.read? (Path.ofString output) =
        some (Utf8.encode s.document.write.1.toList) := by
  obtain ⟨stderr, hfinish⟩ := s.runScan_eq_finish habort
  obtain ⟨hcrash, hread⟩ := writeOutput_of_opens hopens s.document
  obtain ⟨hcode, hfiles⟩ := finish_of_output hout stderr s.processor s.batch
  rw [hfinish, hcode, hfiles]
  exact ⟨by rw [← document, hcrash, Option.map_eq_none_iff, Document.write_eq_none_iff, IsSummarized],
    hread⟩

/-- A command that succeeds has written the whole document, unless its command line asks for no scan, and
one that fails has left the files as they were, with two exceptions: a document that cannot be written has
taken the place of the old file as far as it could, and a document that could be written stays where the
summary cannot be printed. -/
theorem output_complete_or_untouched {w : World} {args : List String} {output : String}
    (hout : ∀ o, w.arguments args = .request (.scan o) → o.output = some output)
    (hopens : w.files.Opens (Path.ofString output)) :
    ((run w args).code = 0 →
      (∀ o, w.arguments args ≠ .request (.scan o)) ∧ (run w args).files = w.files ∨
      ∃ o, w.arguments args = .request (.scan o) ∧ ∃ s : Prepared w o, s.batch.abort = none ∧
        ∃ text, s.document.text? = some (Text.ofString text) ∧
          (run w args).files.read? (Path.ofString output) = some (Utf8.encode text.toList)) ∧
    ((run w args).code ≠ 0 → (run w args).files = w.files ∨
      ∃ o, w.arguments args = .request (.scan o) ∧ ∃ s : Prepared w o, s.batch.abort = none ∧
        (s.document.isWritable = false ∨ ¬s.IsSummarized (Path.ofString output)) ∧
          (run w args).files.read? (Path.ofString output) =
            some (Utf8.encode s.document.write.1.toList)) := by
  unfold run
  split
  next code stdout stderr hended =>
    exact ⟨fun _ => Or.inl ⟨by simp [hended], rfl⟩, fun _ => Or.inl rfl⟩
  next hversion => exact ⟨fun _ => Or.inl ⟨by simp [hversion], rfl⟩, fun _ => Or.inl rfl⟩
  next o hscan =>
  rcases runScan_cases w o with ⟨s, habort⟩ | ⟨hfail, hfiles⟩
  · obtain ⟨hcode, hread⟩ := s.runScan_of_opens habort (hout o hscan) hopens
    refine ⟨?_, ?_⟩
    · intro hzero
      obtain ⟨text, htext⟩ := Document.isWritable_iff.1 (hcode.1 hzero).1
      refine Or.inr ⟨o, hscan, s, habort, text, htext, ?_⟩
      rw [hread, Document.write_of_text? htext]
    · intro hfail
      refine Or.inr ⟨o, hscan, s, habort, ?_, hread⟩
      rw [← Bool.not_eq_true]
      exact not_and_or.1 (mt hcode.2 hfail)
  · exact ⟨fun hzero => absurd hzero hfail, fun _ => Or.inl hfiles⟩

namespace Sample

/-- A project of one source beside an output file of an earlier run. -/
def project (code : String) (console : Terminal.Console := Terminal.plain) : World where
  files := {
    root := .directory [("home", .directory [("a.jsx", .file (Utf8.encode code.toList)),
      ("out.json", .file (Utf8.encode "old".toList))])]
    working := ["home"] }
  environment := []
  parse := Source.parse
  arguments := Invocation.ofArguments
  extend := EnvFile.extend
  console := console
  characters := CharacterName.lookup?

/-- A console whose encoding has the first 256 characters. It draws its tables with these alone. -/
def latin : Terminal.Console :=
  let keep := Option.filter fun t : Text => t.all fun c => c.val < 256
  let fits (s : String) : Bool := s.toList.all fun c => c.toNat < 256
  { Terminal.plain with
    output := some "iso8859-1"
    echo := fun t => keep (Terminal.plain.echo t)
    message := fun markup => keep (Terminal.plain.message markup)
    table := fun t =>
      if (t.title :: t.rows.map Prod.fst).all fits then Terminal.plain.table t else none }

/-- A source with half of a surrogate pair. -/
def halfPair : String := "<A b=\x7b'\\ud800'\x7d/>"

def outputArguments : List String := ["scan", "-o", "out.json"]

theorem ofArguments_outputArguments :
    Invocation.ofArguments outputArguments = .request (.scan { output := some "out.json" }) := by decide

theorem output_of_outputArguments {code : String} {console : Terminal.Console} (o : Options)
    (h : (project code console).arguments outputArguments = .request (.scan o)) :
    o.output = some "out.json" := by
  cases ofArguments_outputArguments.symm.trans h
  rfl

theorem opens_project (code : String) (console : Terminal.Console) :
    (project code console).files.Opens (Path.ofString "out.json") := by
  refine ⟨(project code console).files, _, ?_, rfl⟩
  rw [FileSystem.makeDirectories]
  rfl

theorem isPresent_working (code : String) (console : Terminal.Console) :
    (project code console).files.isPresent (Path.ofString ".") = true := rfl

def prepared (code : String) (console : Terminal.Console) (output : Option String) :
    Prepared (project code console) { output := output } where
  env := []
  config := {}
  processor := .rawReport
  present := isPresent_working code console
  loaded := rfl
  built := rfl
  named := rfl

theorem isSummarized_plain {code : String} {o : Options} (s : Prepared (project code) o)
    (output : Path) : s.IsSummarized output := by
  simp only [Prepared.IsSummarized, summary]
  split <;> simp [project, Terminal.plain, Terminal.Console.print]

end Sample

open MarkupCensus.Command.Sample in
/-- The old file is left alone by an option that does not exist. It is replaced by a whole document, by
the beginning of one that holds a lone surrogate, and by the whole document again where the summary's
first glyph cannot be printed. -/
theorem output_complete_or_untouched_projects :
    (run (project "<A/>") ["scan", "--depth", "1"]).files = (project "<A/>").files ∧
    (∃ s : Prepared (project "<A/>") { output := some "out.json" }, ∃ text,
      s.document.text? = some (Text.ofString text) ∧
        (run (project "<A/>") outputArguments).files.read? (Path.ofString "out.json") =
          some (Utf8.encode text.toList)) ∧
    (∃ s : Prepared (project halfPair) { output := some "out.json" },
      s.document.isWritable = false ∧
        (run (project halfPair) outputArguments).files.read? (Path.ofString "out.json") =
          some (Utf8.encode s.document.write.1.toList)) ∧
    ∃ s : Prepared (project "<A/>" latin) { output := some "out.json" },
      ¬s.IsSummarized (Path.ofString "out.json") ∧
        (run (project "<A/>" latin) outputArguments).files.read? (Path.ofString "out.json") =
          some (Utf8.encode s.document.write.1.toList) := by
  refine ⟨?_, ?_, ?_, ?_⟩
  · have hrefused : Invocation.ofArguments ["scan", "--depth", "1"] = .ended 2 [] "" := by decide
    have hno (o : Options) :
        (project "<A/>").arguments ["scan", "--depth", "1"] ≠ .request (.scan o) := by
      intro h
      cases hrefused.symm.trans h
    obtain ⟨-, hfail⟩ :=
      output_complete_or_untouched (fun o h => absurd h (hno o)) (opens_project "<A/>" Terminal.plain)
    rcases hfail (by decide +kernel) with hsame | ⟨o, ho, -⟩
    · exact hsame
    · exact absurd ho (hno o)
  · obtain ⟨hwhole, -⟩ :=
      output_complete_or_untouched output_of_outputArguments (opens_project "<A/>" Terminal.plain)
    rcases hwhole (by decide +kernel) with ⟨hnone, -⟩ | ⟨o, ho, s, -, hs⟩
    · exact absurd ofArguments_outputArguments (hnone _)
    · cases ofArguments_outputArguments.symm.trans ho
      exact ⟨s, hs⟩
  · obtain ⟨-, hpart⟩ :=
      output_complete_or_untouched output_of_outputArguments (opens_project halfPair Terminal.plain)
    have hchanged : (run (project halfPair) outputArguments).files.read? (Path.ofString "out.json") ≠
        some (Utf8.encode "old".toList) := by decide +kernel
    rcases hpart (by decide +kernel) with hsame | ⟨o, ho, s, -, hcause, hs⟩
    · rw [hsame] at hchanged
      exact absurd rfl hchanged
    · cases ofArguments_outputArguments.symm.trans ho
      exact ⟨s, hcause.resolve_right fun h => h (isSummarized_plain s _), hs⟩
  · obtain ⟨-, hcomplete⟩ :=
      output_complete_or_untouched output_of_outputArguments (opens_project "<A/>" latin)
    have hchanged : (run (project "<A/>" latin) outputArguments).files.read?
        (Path.ofString "out.json") ≠ some (Utf8.encode "old".toList) := by decide +kernel
    have hwritable : (prepared "<A/>" latin (some "out.json")).document.isWritable = true := by
      decide +kernel
    rcases hcomplete (by decide +kernel) with hsame | ⟨o, ho, s, -, hcause, hs⟩
    · rw [hsame] at hchanged
      exact absurd rfl hchanged
    · cases ofArguments_outputArguments.symm.trans ho
      rw [Subsingleton.elim (prepared "<A/>" latin (some "out.json")) s] at hwritable
      exact ⟨s, hcause.resolve_left (by simp [hwritable]), hs⟩

end Command

end MarkupCensus
