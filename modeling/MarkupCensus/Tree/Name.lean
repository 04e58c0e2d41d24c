import MarkupCensus.Tree.Fault

namespace MarkupCensus.Node

def isNameLeaf (n : Node) : Bool :=
  n.kind == "identifier" || n.kind == "property_identifier" || n.kind == "jsx_identifier"

def isNameChain (n : Node) : Bool := n.kind == "member_expression" || n.kind == "nested_identifier"

/-- The qualified name that the name of a tag spells: its identifiers, joined by dots. -/
def qualifiedName (src : Source) (n : Node) : Except Fault String :=
  if n.isNameLeaf then .ok (String.ofList (n.text src))
  else if n.isNameChain then
    match ho : n.child? "object", hp : n.child? "property" with
    | some object, some property =>
      have : object.size < n.size := size_lt_of_child? ho
      have : property.size < n.size := size_lt_of_child? hp
      do return (← object.qualifiedName src) ++ "." ++ (← property.qualifiedName src)
    | _, _ => n.unknown src .name
  else n.unknown src .name
termination_by n.size

end MarkupCensus.Node
