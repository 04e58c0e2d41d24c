import MarkupCensus.Config.Basic
import MarkupCensus.Report.Basic
import MarkupCensus.Tree.Imports

namespace MarkupCensus

/-- Whether a module is one that components may come from. Only text can be searched for a pattern. -/
def Provenance.admits : Provenance → Value → Except Fault Bool
  | _, .null => .ok false
  | .exact name, v => .ok (v = .ofString name)
  | .pattern p, .text t => .ok (p.isFoundIn t)
  | .pattern _, v => .error (.unsearchable v.typeName)

/-- The first segment of a qualified name, which is what a file can import. -/
def topName (name : String) : String := (segments name).headD ""

def isDotted (name : String) : Bool := 1 < (segments name).length

namespace ScanConfig

/-- The allow-set lists the name or its first segment. -/
def allows (c : ScanConfig) (name : String) : Bool :=
  c.components.all fun names => names.contains name || names.contains (topName name)

/-- The first segment is imported from a module that components may come from. -/
def admits (c : ScanConfig) (imports : ImportTable) (name : String) : Except Fault Bool :=
  match c.importedFrom, imports.get? (topName name) with
  | none, _ => .ok true
  | some _, none => .ok false
  | some p, some origin => p.admits origin

/-- Whether the uses of a component are recorded in a file with the given imports. -/
def accepts (c : ScanConfig) (imports : ImportTable) (name : String) : Except Fault Bool :=
  if c.allows name && (c.subComponents || !isDotted name) then c.admits imports name else .ok false

end ScanConfig

end MarkupCensus
