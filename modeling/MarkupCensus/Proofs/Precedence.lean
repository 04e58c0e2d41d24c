import MarkupCensus.Command.Options
import MarkupCensus.Text.CharacterName

namespace MarkupCensus

@[simp] theorem nonempty?_or_nonempty? (a b : Option String) :
    nonempty? ((nonempty? a).or (nonempty? b)) = (nonempty? a).or (nonempty? b) := by
  simp only [nonempty?]
  cases h : Option.filter (fun s : String => !s.isEmpty) a with
  | none => simp
  | some s =>
    have hs := (Option.filter_eq_some_iff.1 h).2
    simp [hs]

namespace ScanOptions

variable {characters : String → Option Nat} {o : ScanOptions} {source name : String}

/-- What a pattern comes to as a filter. -/
def ofPattern (characters : String → Option Nat) (source : String) :
    Except ConfigFault (Option Provenance) :=
  match Pattern.ofString characters source with
  | .ok p => .ok (some (.pattern p))
  | .error fault => .error { source := source, fault := fault }

theorem ofPattern_ne_exact : ofPattern characters source ≠ .ok (some (.exact name)) := by
  unfold ofPattern
  split <;> simp

theorem provenance_of_pattern (h : nonempty? o.importedFromPattern = some source) :
    o.provenance characters = ofPattern characters source := by
  rw [provenance, h]
  rfl

/-- A configuration is put together from an allow-set, a switch and a filter, and only the filter can
fail. -/
theorem build_eq : o.build characters = (o.provenance characters).map fun p =>
    { components := o.allowed, subComponents := o.subComponents, importedFrom := p } := by
  unfold build
  cases o.provenance characters <;> rfl

theorem provenance_of_no_pattern (h : nonempty? o.importedFromPattern = none) :
    o.provenance characters = .ok ((nonempty? o.importedFrom).map .exact) := by
  rw [provenance, h]

end ScanOptions

namespace Command.Options

variable (characters : String → Option Nat) (o : Options) (env : Environment)

/-- The options of a scan in an environment. -/
def scanOptionsIn : ScanOptions := o.scanOptions env.defaults

theorem importedFrom_scanOptionsIn : nonempty? (o.scanOptionsIn env).importedFrom =
    (nonempty? o.importedFrom).or (env.nonempty "IMPORTED_FROM") :=
  nonempty?_or_nonempty? o.importedFrom (env.value? "IMPORTED_FROM")

theorem importedFromPattern_scanOptionsIn : nonempty? (o.scanOptionsIn env).importedFromPattern =
    (nonempty? o.importedFromPattern).or (env.nonempty "IMPORTED_FROM_PATTERN") :=
  nonempty?_or_nonempty? o.importedFromPattern (env.value? "IMPORTED_FROM_PATTERN")

variable {o}

/-- Names on the command line are the only ones that count, even if they come to no name at all. -/
theorem allowed_scanOptionsIn (h : o.components ≠ []) :
    (o.scanOptionsIn env).allowed = ({ components := o.components } : ScanOptions).allowed := by
  have hc : (o.scanOptionsIn env).components = o.components := by
    simp [scanOptionsIn, scanOptions, h]
  rw [ScanOptions.allowed, hc]
  rfl

theorem subComponents_scanOptionsIn {b : Bool} (h : o.subComponents = some b) :
    (o.scanOptionsIn env).subComponents = b := by
  simp [scanOptionsIn, scanOptions, h]

/-- A pattern on the command line decides alone, whether or not it can be used. -/
theorem provenance_of_own_pattern {source : String}
    (h : nonempty? o.importedFromPattern = some source) :
    (o.scanOptionsIn env).provenance characters = ScanOptions.ofPattern characters source := by
  apply ScanOptions.provenance_of_pattern
  rw [importedFromPattern_scanOptionsIn, h, Option.some_or]

/-- A pattern of the environment comes before a module named on the command line. -/
theorem provenance_of_own_module {name : String} (hname : nonempty? o.importedFrom = some name)
    (hpattern : nonempty? o.importedFromPattern = none) : (o.scanOptionsIn env).provenance characters =
      match env.nonempty "IMPORTED_FROM_PATTERN" with
      | some source => ScanOptions.ofPattern characters source
      | none => .ok (some (.exact name)) := by
  have hp := importedFromPattern_scanOptionsIn o env
  rw [hpattern, Option.none_or] at hp
  cases henv : env.nonempty "IMPORTED_FROM_PATTERN" with
  | some source =>
    rw [henv] at hp
    exact ScanOptions.provenance_of_pattern hp
  | none =>
    rw [henv] at hp
    rw [ScanOptions.provenance_of_no_pattern hp, importedFrom_scanOptionsIn, hname]
    rfl

end Command.Options

namespace Command

/-- What the command line sets of the configuration is the same in any two environments, and it fails in
both or in none, with one exception: a module it names is looked for only where the environment has no
pattern. -/
theorem configuration_independent (characters : String → Option Nat) (o : Options)
    (env env' : Environment) :
    (o.scanOptionsIn env).build characters = ((o.scanOptionsIn env).provenance characters).map (fun p =>
      { components := (o.scanOptionsIn env).allowed
        subComponents := (o.scanOptionsIn env).subComponents
        importedFrom := p }) ∧
    (o.components ≠ [] → (o.scanOptionsIn env).allowed = (o.scanOptionsIn env').allowed) ∧
    (o.subComponents.isSome →
      (o.scanOptionsIn env).subComponents = (o.scanOptionsIn env').subComponents) ∧
    ((nonempty? o.importedFromPattern).isSome →
      (o.scanOptionsIn env).provenance characters = (o.scanOptionsIn env').provenance characters) ∧
    ∀ name, nonempty? o.importedFrom = some name → nonempty? o.importedFromPattern = none →
      ((o.scanOptionsIn env).provenance characters = .ok (some (.exact name)) ↔
        env.nonempty "IMPORTED_FROM_PATTERN" = none) := by
  refine ⟨ScanOptions.build_eq, ?_, ?_, ?_, ?_⟩
  · intro h
    rw [Options.allowed_scanOptionsIn env h, Options.allowed_scanOptionsIn env' h]
  · intro h
    obtain ⟨b, hb⟩ := Option.isSome_iff_exists.1 h
    rw [Options.subComponents_scanOptionsIn env hb, Options.subComponents_scanOptionsIn env' hb]
  · intro h
    obtain ⟨source, hs⟩ := Option.isSome_iff_exists.1 h
    rw [Options.provenance_of_own_pattern characters env hs,
      Options.provenance_of_own_pattern characters env' hs]
  · intro name hname hpattern
    rw [Options.provenance_of_own_module characters env hname hpattern]
    cases env.nonempty "IMPORTED_FROM_PATTERN" with
    | none => simp
    | some source => simp [ScanOptions.ofPattern_ne_exact]

open CharacterName (lookup?)

/-- The command line `scan -c Box --include-subcomponents --imported-from ds`. -/
def boxesFromModule : Options where
  components := ["Box"]
  subComponents := some true
  importedFrom := some "ds"

/-- An environment with a pattern that cannot be read. -/
def brokenPattern : Environment := [("COMPONENT_CENSUS_IMPORTED_FROM_PATTERN", "(")]

/-- The broken pattern leaves the names and the switch alone, but takes the place of the module. -/
theorem configuration_independent_boxes :
    (boxesFromModule.scanOptionsIn []).allowed =
      (boxesFromModule.scanOptionsIn brokenPattern).allowed ∧
    (boxesFromModule.scanOptionsIn []).subComponents =
      (boxesFromModule.scanOptionsIn brokenPattern).subComponents ∧
    (boxesFromModule.scanOptionsIn []).provenance lookup? = .ok (some (.exact "ds")) ∧
    (boxesFromModule.scanOptionsIn brokenPattern).provenance lookup? ≠ .ok (some (.exact "ds")) ∧
    ({ importedFromPattern := some "^ds" : Options }.scanOptionsIn []).provenance lookup? =
      ({ importedFromPattern := some "^ds" : Options }.scanOptionsIn brokenPattern).provenance lookup? := by
  obtain ⟨-, hallowed, hswitch, -, hmodule⟩ :=
    configuration_independent lookup? boxesFromModule [] brokenPattern
  obtain ⟨-, -, -, -, hbroken⟩ := configuration_independent lookup? boxesFromModule brokenPattern []
  obtain ⟨-, -, -, hpattern, -⟩ :=
    configuration_independent lookup? { importedFromPattern := some "^ds" } [] brokenPattern
  refine ⟨hallowed (by simp [boxesFromModule]), hswitch rfl, (hmodule "ds" (by decide) rfl).2 rfl, ?_,
    hpattern (by decide)⟩
  intro h
  have hnone := (hbroken "ds" (by decide) rfl).1 h
  revert hnone
  decide

end Command

end MarkupCensus
