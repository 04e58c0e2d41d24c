import MarkupCensus.Proofs.Merge
import MarkupCensus.Proofs.Written

namespace MarkupCensus

/-- A field that is present holds something. -/
structure Component.Compact (c : Component) : Prop where
  instances : c.instances? ≠ some []
  components : c.components? ≠ some []

namespace Report

/-- A report made from nothing by operations, on whatever names, and by merges. -/
inductive Made : Report → Prop
  | empty : Made []
  | apply {r : Report} (h : Made r) (op : Operation) : Made (op.apply r)
  | merge {t s : Report} (ht : Made t) (hs : Made s) : Made (merge t s)

/-- Merges can be replaced by the operations that made their source. -/
theorem Made.exists_run {r : Report} (h : Made r) : ∃ ops, r = run ops [] := by
  induction h with
  | empty => exact ⟨[], rfl⟩
  | apply _ op ih =>
    obtain ⟨ops, rfl⟩ := ih
    exact ⟨ops ++ [op], by simp [run]⟩
  | merge _ _ iht ihs =>
    obtain ⟨ops, rfl⟩ := iht
    obtain ⟨ops', rfl⟩ := ihs
    exact ⟨ops ++ ops', by rw [merge_run_empty]; simp [run]⟩

theorem compact_alter_change (op : Operation) (path : List String) {c : Component}
    (h : c.Compact) : (Component.alter op.change path c).Compact := by
  cases path with
  | nil =>
    cases op with
    | ensure name => exact h
    | add name use => exact ⟨by simp [Component.alter, Operation.change, Component.addInstance],
        h.components⟩
  | cons s path => exact ⟨h.instances, fun hc => OrderedMap.alter_ne_nil _ _ _ (Option.some.inj hc)⟩

theorem each_compact_apply {r : Report} (h : r.Each fun _ c => c.Compact) (op : Operation) :
    (op.apply r).Each fun _ c => c.Compact := by
  have hroot : Each (fun _ c => c.Compact) (Component.components ⟨none, some r⟩) := h
  rw [op.apply_eq_alter, alter]
  refine Each.alter ?_ ?_ hroot
  · rintro key - rest c (rfl | hc)
    · exact compact_alter_change op rest ⟨by simp, by simp⟩
    · exact compact_alter_change op rest hc
  · intro c hc
    rw [op.components_change]
    exact hc

theorem each_compact_run {r : Report} (h : r.Each fun _ c => c.Compact) (ops : List Operation) :
    (run ops r).Each fun _ c => c.Compact := by
  induction ops generalizing r with
  | nil => exact h
  | cons op ops ih => exact ih (each_compact_apply h op)

theorem Made.each_compact {r : Report} (h : Made r) : r.Each fun _ c => c.Compact := by
  obtain ⟨ops, rfl⟩ := h.exists_run
  exact each_compact_run Each.nil ops

end Report

namespace Document

def toValue? : Document → Option Value
  | .null => some .null
  | .bool b => some (.bool b)
  | .number n => some (.number n)
  | .text t => some (.text t)
  | _ => none

def toNat? : Document → Option Nat
  | .number (.int (.ofNat n)) => some n
  | _ => none

def toLocation? : Document → Option Location
  | .object [("file", .text file), ("start", .object [("line", line), ("column", column)])] => do
    return { file := ← file.toString?, line := ← line.toNat?, column := ← column.toNat? }
  | _ => none

/-- Reads the value of a named attribute. -/
def toProp? (field : String × Document) : Option (String × Value) :=
  field.2.toValue?.map (field.1, ·)

def toInstance? : Document → Option Instance
  | .object [("props", .object props), ("propsSpread", .bool spread), ("location", location)] => do
    return { props := ← props.mapM toProp?, spread := spread, location := ← location.toLocation? }
  | _ => none

mutual

/-- Reads a component. What is left out is absent. -/
def toComponent? : Document → Option Component
  | .object [] => some {}
  | .object [("instances", .list uses)] => do return ⟨some (← uses.mapM toInstance?), none⟩
  | .object [("components", .object below)] => do return ⟨none, some (← toComponents? below)⟩
  | .object [("instances", .list uses), ("components", .object below)] => do
    return ⟨some (← uses.mapM toInstance?), some (← toComponents? below)⟩
  | _ => none

def toComponents? : List (String × Document) → Option Report
  | [] => some []
  | (name, d) :: rest => do return (name, ← toComponent? d) :: (← toComponents? rest)

end

/-- Reads a report from its raw document. -/
def toReport? : Document → Option Report
  | .object fields => toComponents? fields
  | _ => none

theorem toValue?_ofValue (v : Value) : (ofValue v).toValue? = some v := by cases v <;> rfl

theorem toLocation?_ofLocation (l : Location) : (ofLocation l).toLocation? = some l := by
  simp [ofLocation, toLocation?, ofString, ofNat, toNat?, Text.toString?_eq]

theorem mapM_of_eq_some {α : Type} {f : α → Option α} (h : ∀ a, f a = some a) (as : List α) :
    as.mapM f = some as := by
  induction as with
  | nil => rfl
  | cons a as ih => simp [List.mapM_cons, h, ih]

theorem toInstance?_ofInstance (use : Instance) : (ofInstance use).toInstance? = some use := by
  have hprops : use.props.mapM (toProp? ∘ fun p => (p.1, ofValue p.2)) = some use.props :=
    mapM_of_eq_some (fun p => by simp [toProp?, toValue?_ofValue]) use.props
  simp [ofInstance, toInstance?, hprops, toLocation?_ofLocation]

theorem mapM_toInstance? (uses : List Instance) :
    uses.mapM (toInstance? ∘ ofInstance) = some uses := mapM_of_eq_some toInstance?_ofInstance uses

/-- A compact component is read back if what is below it is. -/
theorem toComponent?_ofComponent {c : Component} (hc : c.Compact)
    (hbelow : toComponents? (ofReport c.components) = some c.components) :
    (ofComponent c).toComponent? = some c := by
  obtain ⟨uses, below⟩ := c
  obtain ⟨hi, hb⟩ := hc
  -- an empty list or map would be left out, and come back as an absent field
  have huses : ∀ us, uses = some us → us.isEmpty = false := by
    rintro us rfl
    exact List.isEmpty_eq_false_iff.2 fun h => hi (congrArg some h)
  have hcomponents : ∀ cs, below = some cs → cs.isEmpty = false := by
    rintro cs rfl
    exact List.isEmpty_eq_false_iff.2 fun h => hb (congrArg some h)
  cases uses with
  | none =>
    cases below with
    | none => rfl
    | some cs =>
      rw [Component.components_mk, Option.getD_some] at hbelow
      simp [ofComponent, hcomponents cs rfl, toComponent?, hbelow]
  | some us =>
    cases below with
    | none => simp [ofComponent, huses us rfl, toComponent?, mapM_toInstance?]
    | some cs =>
      rw [Component.components_mk, Option.getD_some] at hbelow
      simp [ofComponent, huses us rfl, hcomponents cs rfl, toComponent?, mapM_toInstance?, hbelow]

/-- Every compact report is read back. -/
theorem toComponents?_ofReport {r : Report} (h : r.Each fun _ c => c.Compact) :
    toComponents? (ofReport r) = some r := by
  induction h with
  | @intro r here below ih =>
    clear below
    induction r with
    | nil => rfl
    | cons e r ihr =>
      have he := toComponent?_ofComponent (here e List.mem_cons_self) (ih e List.mem_cons_self)
      have hr := ihr (fun d hd => here d (List.mem_cons_of_mem e hd))
        fun d hd => ih d (List.mem_cons_of_mem e hd)
      simp [ofReport, toComponents?, he, hr]

theorem toReport?_rawReport {r : Report} (h : r.Made) :
    (ofProcessed (Processor.rawReport.run r)).toReport? = some r :=
  toComponents?_ofReport h.each_compact

/-- The raw document of a report loses nothing: the report, with its tree, the order of its keys, and
its uses with their attributes, spreads and locations, is read back from it, and two reports with the
same document are the same. -/
theorem rawReport_loses_nothing :
    (∀ r : Report, r.Made → (ofProcessed (Processor.rawReport.run r)).toReport? = some r) ∧
    ∀ r s : Report, r.Made → s.Made →
      ofProcessed (Processor.rawReport.run r) = ofProcessed (Processor.rawReport.run s) → r = s := by
  refine ⟨fun r hr => toReport?_rawReport hr, ?_⟩
  intro r s hr hs hdocument
  have hread := toReport?_rawReport hr
  rw [hdocument, toReport?_rawReport hs] at hread
  exact (Option.some.inj hread).symm

end Document

namespace Sample

/-- A use with a lone surrogate, an attribute without a value, and a spread. -/
def spreadUse : Instance where
  props := [("icon", .text [0xD83D]), ("wide", .null), ("size", .number (.int 2))]
  spread := true
  location := ⟨"box.jsx", 3, 1⟩

def menuFirst : Report := Report.run [.ensure "Menu.Item", .add "Box" spreadUse] []

/-- The same components as in `menuFirst`, in the other order. -/
def boxFirst : Report :=
  Report.merge (Report.run [.add "Box" spreadUse] []) (Report.run [.ensure "Menu.Item"] [])

theorem made_menuFirst : menuFirst.Made :=
  .apply (.apply .empty (.ensure "Menu.Item")) (.add "Box" spreadUse)

theorem made_boxFirst : boxFirst.Made :=
  .merge (.apply .empty (.add "Box" spreadUse)) (.apply .empty (.ensure "Menu.Item"))

end Sample

namespace Document

theorem rawReport_loses_nothing_orders :
    Sample.menuFirst.Made ∧ Sample.boxFirst.Made ∧
    (ofProcessed (Processor.rawReport.run Sample.boxFirst)).toReport? = some Sample.boxFirst ∧
    ofProcessed (Processor.rawReport.run Sample.menuFirst) ≠
      ofProcessed (Processor.rawReport.run Sample.boxFirst) := by
  obtain ⟨hread, hinjective⟩ := rawReport_loses_nothing
  refine ⟨Sample.made_menuFirst, Sample.made_boxFirst, hread _ Sample.made_boxFirst, ?_⟩
  intro hdocument
  have hreports := hinjective _ _ Sample.made_menuFirst Sample.made_boxFirst hdocument
  have hkeys : OrderedMap.keys Sample.menuFirst = OrderedMap.keys Sample.boxFirst := by rw [hreports]
  exact absurd hkeys (by decide)

end Document

end MarkupCensus
