import MarkupCensus.Config.NameList
import MarkupCensus.OrderedMap
import MarkupCensus.Text.Case

namespace MarkupCensus

abbrev Environment := OrderedMap String

/-- Why a file of variables cannot be loaded. -/
inductive EnvFault where
  /-- It is no well-formed text. -/
  | illFormed
  /-- A name or a value that no environment takes. -/
  | refused (name : String)
deriving DecidableEq, Repr

structure EnvironmentDefaults where
  components : List String
  subComponents : Bool
  importedFrom : Option String
  importedFromPattern : Option String
  exclude : List String
deriving DecidableEq, Repr

namespace Environment

def variableName (name : String) : String := "COMPONENT_CENSUS_" ++ name

def value? (env : Environment) (name : String) : Option String :=
  OrderedMap.get? env (variableName name)

def isTruthy (value : String) : Bool :=
  ["1", "true", "yes", "on"].contains (String.ofList (Case.lowerCase (Blank.trim value.toList)))

def nonempty (env : Environment) (name : String) : Option String :=
  (env.value? name).filter fun s => !s.isEmpty

def names (env : Environment) (name : String) : List String :=
  NameList.ofValues [(env.value? name).getD ""]

def defaults (env : Environment) : EnvironmentDefaults where
  components := env.names "COMPONENTS"
  subComponents := isTruthy ((env.value? "INCLUDE_SUBCOMPONENTS").getD "")
  importedFrom := env.nonempty "IMPORTED_FROM"
  importedFromPattern := env.nonempty "IMPORTED_FROM_PATTERN"
  exclude := env.names "EXCLUDE"

def scanVariables : List String :=
  ["COMPONENTS", "INCLUDE_SUBCOMPONENTS", "IMPORTED_FROM", "IMPORTED_FROM_PATTERN",
   "EXCLUDE"].map variableName

end Environment

end MarkupCensus
