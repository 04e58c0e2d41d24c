import MarkupCensus.Scan.Basic

namespace MarkupCensus

/-- A file to scan: the name it goes under, and its bytes if it can be read. -/
structure BatchFile where
  name : String
  bytes : Option (List UInt8)

/-- What is wrong with a file that a batch leaves out. -/
inductive Trouble where
  | unreadable (name : String)
  | unparsable (name : String)
deriving DecidableEq, Repr

namespace Trouble

def name : Trouble → String
  | unreadable name => name
  | unparsable name => name

def message : Trouble → String
  | unreadable name => "Failed to read: " ++ name
  | unparsable name => "Failed to parse: " ++ name

end Trouble

/-- What a batch has come to. -/
structure Batch where
  report : Report
  scanned : Nat := 0
  troubles : List Trouble := []
  /-- The number of files that were begun. -/
  begun : Nat := 0
  /-- The fault that ended the batch, with the name of its file. -/
  abort : Option (String × Fault) := none

/-- The source in a file of well-formed text, without a mark at its start. -/
def sourceOf? (bytes : List UInt8) : Option Source :=
  let bytes := if [0xEF, 0xBB, 0xBF].isPrefixOf bytes then bytes.drop 3 else bytes
  (Utf8.decode? bytes).map fun _ => bytes

namespace Batch

/-- Scans one file into a report of its own, which is merged only if the scan completes. -/
def scanOne (config : ScanConfig) (parse : Source → Except ParseFailure Node) (b : Batch)
    (f : BatchFile) : Batch :=
  let b := { b with begun := b.begun + 1 }
  match f.bytes.bind sourceOf? with
  | none => { b with troubles := b.troubles ++ [.unreadable f.name] }
  | some src =>
    match scan config { file := f.name, source := src } (parse src) [] with
    | (_, .unparsable _) => { b with troubles := b.troubles ++ [.unparsable f.name] }
    | (_, .aborted fault) => { b with abort := some (f.name, fault) }
    | (r, .complete) => { b with report := Report.merge b.report r, scanned := b.scanned + 1 }

/-- Scans files one after another, up to the first that aborts. -/
def scanAll (config : ScanConfig) (parse : Source → Except ParseFailure Node) :
    Batch → List BatchFile → Batch
  | b, [] => b
  | b, f :: fs =>
    if b.abort.isSome then b else scanAll config parse (scanOne config parse b f) fs

end Batch

/-- Scans files into a report. -/
def scanFiles (config : ScanConfig) (parse : Source → Except ParseFailure Node) (report : Report)
    (files : List BatchFile) : Batch :=
  Batch.scanAll config parse { report := report } files

end MarkupCensus
