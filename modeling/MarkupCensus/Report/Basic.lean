import MarkupCensus.Text.Split
import MarkupCensus.Tree.Usage

namespace MarkupCensus

/-- The uses of one qualified name, and the components one level below it. A field is absent until
something is stored in it. -/
structure Component where
  instances? : Option (List Instance) := none
  components? : Option (List (String × Component)) := none
deriving Repr, Inhabited

/-- Where each component is used. A dot in a qualified name leads one level down. -/
abbrev Report := OrderedMap Component

/-- The path of a qualified name through a report. -/
def segments (name : String) : List String := (Split.split '.' name.toList).map String.ofList

namespace Component

def instances (c : Component) : List Instance := c.instances?.getD []

def components (c : Component) : Report := c.components?.getD []

/-- Changes the component at the end of a path, creating what is missing on the way. -/
def alter (f : Component → Component) : List String → Component → Component
  | [], c => f c
  | s :: path, c =>
    { c with
      components? := some (OrderedMap.alter c.components s fun o => alter f path (o.getD {})) }

def find? : List String → Component → Option Component
  | [], c => some c
  | s :: path, c => (OrderedMap.get? c.components s).bind (find? path)

def addInstance (use : Instance) (c : Component) : Component :=
  { c with instances? := some (c.instances ++ [use]) }

end Component

namespace Report

/-- Changes the component of a qualified name, creating what is missing on the way. -/
def alter (r : Report) (name : String) (f : Component → Component) : Report :=
  (Component.alter f (segments name) { components? := some r }).components

def find? (r : Report) (name : String) : Option Component :=
  Component.find? (segments name) { components? := some r }

def ensure (r : Report) (name : String) : Report := r.alter name id

def add (r : Report) (name : String) (use : Instance) : Report := r.alter name (·.addInstance use)

end Report

mutual

/-- Appends the uses of one component, and of all below it, to those of another. A field of which there
is nothing to append is left as it is. -/
def Component.merge (target : Component) : Component → Component
  | ⟨uses, below⟩ =>
    { instances? := if (uses.getD []).isEmpty then target.instances?
        else some (target.instances ++ uses.getD [])
      components? := match below with
        | none => target.components?
        | some cs =>
          if cs.isEmpty then target.components? else some (Report.merge target.components cs) }

/-- Appends the uses of one report to those of another. -/
def Report.merge (target : Report) : List (String × Component) → Report
  | [] => target
  | (name, c) :: rest =>
    Report.merge (OrderedMap.alter target name fun o => Component.merge (o.getD {}) c) rest

end

/-- The qualified name of a component below the one of the given name; nothing is put before the name
of a component at the top. -/
def qualify (above name : String) : String := if above.isEmpty then name else above ++ "." ++ name

mutual

def Component.iterate (name : String) : Component → List (String × Component)
  | c@⟨_, below⟩ =>
    (name, c) :: match below with
      | none => []
      | some cs => Report.iterate name cs

/-- The components of a report with their qualified names, in pre-order. -/
def Report.iterate (above : String) : List (String × Component) → List (String × Component)
  | [] => []
  | (name, c) :: rest => Component.iterate (qualify above name) c ++ Report.iterate above rest

end

/-- The uses of the components of a report under their qualified names, in pre-order. -/
def Report.entries (above : String) (r : Report) : List (String × List Instance) :=
  (Report.iterate above r).map fun e => (e.1, e.2.instances)

end MarkupCensus
