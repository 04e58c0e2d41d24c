import MarkupCensus.Config.Basic
import MarkupCensus.Config.Environment
import MarkupCensus.Text.CodePoint

namespace MarkupCensus.Command

/-- What the command line says about a scan. -/
structure Options where
  root : String := "."
  components : List String := []
  subComponents : Option Bool := none
  importedFrom : Option String := none
  importedFromPattern : Option String := none
  exclude : List String := []
  includeTests : Bool := false
  processor : String := "raw-report"
  output : Option String := none
  noProgress : Bool := false
deriving DecidableEq, Repr

inductive Request where
  | scan (o : Options)
  | version
deriving DecidableEq, Repr

/-- What a reader of command lines makes of one. -/
inductive Invocation where
  | request (r : Request)
  /-- There is nothing to do: help has been printed, or the command line is refused. -/
  | ended (code : Nat) (stdout : Text) (stderr : String)
deriving DecidableEq, Repr

namespace Options

/-- The options of the scan itself: what the command line leaves open, the environment decides. -/
def scanOptions (o : Options) (env : EnvironmentDefaults) : ScanOptions where
  components := if o.components.isEmpty then env.components else o.components
  subComponents := o.subComponents.getD env.subComponents
  importedFrom := (nonempty? o.importedFrom).or env.importedFrom
  importedFromPattern := (nonempty? o.importedFromPattern).or env.importedFromPattern

end Options

end MarkupCensus.Command
