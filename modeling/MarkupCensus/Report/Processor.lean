import MarkupCensus.Report.Basic

namespace MarkupCensus

abbrev Count := String × Nat

/-- The more frequent first; of equally frequent keys the smaller one. -/
def Count.before (a b : Count) : Bool := b.2 < a.2 || (a.2 == b.2 && a.1 ≤ b.1)

/-- How often a component is used, and each of its props with it. -/
structure Usage where
  instances : Nat
  props : List Count
deriving DecidableEq, Repr

namespace Report

def uses (r : Report) : OrderedMap (List Instance) :=
  OrderedMap.ofPairs ((Report.entries "" r).filter fun e => !e.2.isEmpty)

/-- The number of uses of each component, the most used first. -/
def counts (r : Report) : List Count :=
  (r.uses.map fun e => (e.1, e.2.length)).mergeSort Count.before

end Report

def propCounts (uses : List Instance) : List Count :=
  let names := uses.flatMap fun use => use.props.map Prod.fst
  (names.eraseDups.map fun p => (p, names.count p)).mergeSort Count.before

namespace Report

/-- The number of uses of each component and of each of its props, the most used first. -/
def usages (r : Report) : List (String × Usage) :=
  (r.uses.map fun e => (e.1, { instances := e.2.length, props := propCounts e.2 : Usage })).mergeSort
    fun a b => Count.before (a.1, a.2.instances) (b.1, b.2.instances)

end Report

inductive Processor where
  | rawReport
  | countComponents
  | countComponentsAndProps
deriving DecidableEq, Repr

namespace Processor

def all : List Processor := [rawReport, countComponents, countComponentsAndProps]

def name : Processor → String
  | rawReport => "raw-report"
  | countComponents => "count-components"
  | countComponentsAndProps => "count-components-and-props"

def ofName? (s : String) : Option Processor := all.find? (·.name == s)

def unknownMessage (s : String) : String :=
  "Unknown processor '" ++ s ++ "'. Choose from: " ++ String.intercalate ", " (all.map name)

end Processor

inductive Processed where
  | report (r : Report)
  | counts (cs : List Count)
  | usages (us : List (String × Usage))

def Processor.run : Processor → Report → Processed
  | .rawReport, r => .report r
  | .countComponents, r => .counts r.counts
  | .countComponentsAndProps, r => .usages r.usages

end MarkupCensus
