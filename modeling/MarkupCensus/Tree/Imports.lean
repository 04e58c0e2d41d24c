import MarkupCensus.OrderedMap
import MarkupCensus.Tree.Literal

namespace MarkupCensus

/-- The module each imported local name comes from. -/
abbrev ImportTable := OrderedMap Value

namespace Node

def localName? (n : Node) : Option Node := (n.child? "alias").or (n.child? "name")

def boundNames (src : Source) (n : Node) : Except Fault (List Node) :=
  if n.kind == "identifier" then .ok [n]
  else if n.kind == "namespace_import" then
    n.significant.mapM fun c =>
      if c.kind == "identifier" then .ok c else c.unknown src .importSpecifier
  else if n.kind == "named_imports" then
    n.significant.mapM fun c =>
      if c.kind == "import_specifier" then
        match c.localName? with
        | some name => .ok name
        | none => c.unknown src .importSpecifier
      else c.unknown src .importSpecifier
  else n.unknown src .importSpecifier

def importedNames (src : Source) (statement : Node) : Except Fault (List Node) := do
  let clauses := statement.significant.filter (·.kind == "import_clause")
  return (← (clauses.flatMap significant).mapM (boundNames src)).flatten

/-- The module an import statement reads from; an import by assignment has none. -/
def importedModule? (src : Source) (statement : Node) : Except Fault (Option Value) :=
  match statement.child? "source" with
  | none => .ok none
  | some source => do
    let origin ← source.literalValue src false
    return if origin = .null then none else some origin

def addImports (src : Source) (table : ImportTable) (statement : Node) :
    Except Fault ImportTable := do
  match ← statement.importedModule? src with
  | none => return table
  | some origin =>
    return (← statement.importedNames src).foldl
      (fun t n => t.set (String.ofList (n.text src)) origin) table

/-- The names bound by the import statements at the top of a program. -/
def importTable (src : Source) (root : Node) : Except Fault ImportTable :=
  (root.namedChildren.filter (·.kind == "import_statement")).foldlM (addImports src) []

end Node

end MarkupCensus
