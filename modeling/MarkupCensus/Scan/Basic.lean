import MarkupCensus.Config.Filter
import MarkupCensus.Tree.Name

namespace MarkupCensus

/-- How the scan of a source ended. -/
inductive ScanEnd where
  | complete
  /-- The source was refused. -/
  | unparsable (failure : ParseFailure)
  /-- A node could not be read. -/
  | aborted (fault : Fault)
deriving DecidableEq, Repr

/-- How the scan of a refused source ends: names that are no text abort it. -/
def ScanEnd.ofRefusal : ParseFailure → ScanEnd
  | .illFormed run => .aborted (.illFormed run)
  | failure => .unparsable failure

/-- What a scan has recorded, and what stopped it. -/
structure ScanState where
  report : Report
  fault : Option Fault := none

/-- A source with the file name under which its uses are recorded. -/
structure SourceFile where
  file : String
  source : Source

namespace Node

def tagKinds : List String := ["jsx_opening_element", "jsx_self_closing_element"]

def isTag (n : Node) : Bool := tagKinds.contains n.kind

/-- The use that a tag is, with the name it goes under: nothing if the name is not accepted. -/
def acceptedUse? (config : ScanConfig) (imports : ImportTable) (f : SourceFile) (tag name : Node) :
    Except Fault (Option (String × Instance)) := do
  let qualified ← name.qualifiedName f.source
  if ← config.accepts imports qualified then
    return some (qualified, ← tag.use f.source f.file)
  else return none

/-- Records a tag that is accepted, and leaves out what is inside one that is not. -/
def recordTag (config : ScanConfig) (imports : ImportTable) (f : SourceFile) (s : ScanState)
    (tag : Node) : ScanState × Option Action :=
  match tag.child? "name" with
  | none => (s, some .proceed)
  | some name =>
    match tag.acceptedUse? config imports f name with
    | .error fault => ({ s with fault := some fault }, some .stop)
    | .ok none => (s, some .skip)
    | .ok (some (qualified, use)) =>
      ({ s with report := s.report.add qualified use }, some .proceed)

/-- Records tags, and passes over all other nodes. -/
def visitTag (config : ScanConfig) (imports : ImportTable) (f : SourceFile) :
    ScanState → Node → ScanState × Action :=
  dispatch (tagKinds.map fun kind => (kind, recordTag config imports f))

def scanTree (config : ScanConfig) (f : SourceFile) (report : Report) (root : Node) :
    Report × ScanEnd :=
  match root.importTable f.source with
  | .error fault => (report, .aborted fault)
  | .ok imports =>
    let s := (walk (visitTag config imports f) { report := report } root).1
    (s.report, match s.fault with
      | some fault => .aborted fault
      | none => .complete)

end Node

/-- Records the accepted uses of a source in a report, given what it was parsed to. -/
def scan (config : ScanConfig) (f : SourceFile) (parsed : Except ParseFailure Node)
    (report : Report) : Report × ScanEnd :=
  match parsed.bind (·.check f.source) with
  | .error failure => (report, .ofRefusal failure)
  | .ok root => root.scanTree config f report

end MarkupCensus
