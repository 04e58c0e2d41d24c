import MarkupCensus.Config.NameList
import MarkupCensus.Pattern.Match
import MarkupCensus.Pattern.Reader

namespace MarkupCensus

/-- Which modules a component may come from. -/
inductive Provenance where
  | exact (name : String)
  | pattern (p : Pattern)

/-- Which uses of components are recorded. -/
structure ScanConfig where
  /-- The names allowed, all of them if there is no list. -/
  components : Option (List String) := none
  /-- Whether dotted names are recorded. -/
  subComponents : Bool := false
  importedFrom : Option Provenance := none

/-- The text of the options that make up a configuration. -/
structure ScanOptions where
  components : List String := []
  subComponents : Bool := false
  importedFrom : Option String := none
  importedFromPattern : Option String := none
deriving DecidableEq, Repr

structure ConfigFault where
  source : String
  fault : Pattern.Fault
deriving DecidableEq, Repr

def ConfigFault.message (e : ConfigFault) : String :=
  match e.fault with
  | .repeatTooLarge | .bothAlphabets => e.fault.message e.source
  | _ =>
    "Invalid --imported-from-pattern '" ++ e.source ++ "': " ++ e.fault.message e.source

/-- An option set to the empty text counts as not set. -/
def nonempty? (o : Option String) : Option String := o.filter fun s => !s.isEmpty

namespace ScanOptions

/-- The allow-set, in order and without repetition. -/
def allowed (o : ScanOptions) : Option (List String) :=
  let names := NameList.ofValues o.components
  if names.isEmpty then none else some (names.eraseDups.mergeSort (· ≤ ·))

/-- A pattern takes precedence over an exact name. -/
def provenance (characters : String → Option Nat) (o : ScanOptions) :
    Except ConfigFault (Option Provenance) :=
  match nonempty? o.importedFromPattern with
  | some source =>
    match Pattern.ofString characters source with
    | .ok p => .ok (some (.pattern p))
    | .error fault => .error { source := source, fault := fault }
  | none => .ok ((nonempty? o.importedFrom).map .exact)

def build (characters : String → Option Nat) (o : ScanOptions) : Except ConfigFault ScanConfig := do
  return {
    components := o.allowed
    subComponents := o.subComponents
    importedFrom := ← o.provenance characters }

end ScanOptions

end MarkupCensus
