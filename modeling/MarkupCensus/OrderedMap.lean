namespace MarkupCensus

/-- A map that keeps its keys in the order of their first assignment. -/
abbrev OrderedMap (α : Type) := List (String × α)

namespace OrderedMap

variable {α : Type}

def get? (m : OrderedMap α) (key : String) : Option α := m.lookup key

/-- Replaces the value of a key, or adds the key at the end. -/
def alter (m : OrderedMap α) (key : String) (f : Option α → α) : OrderedMap α :=
  match m with
  | [] => [(key, f none)]
  | (k, a) :: m => if k = key then (k, f (some a)) :: m else (k, a) :: alter m key f

/-- Assigns a key; one that has a value already keeps its place. -/
def set (m : OrderedMap α) (key : String) (a : α) : OrderedMap α := m.alter key fun _ => a

/-- A map with the last value of each key, the keys in the order of their first occurrence. -/
def ofPairs (ps : List (String × α)) : OrderedMap α := ps.foldl (fun m p => m.set p.1 p.2) []

end OrderedMap

end MarkupCensus
