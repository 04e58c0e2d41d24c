import MarkupCensus.Proofs.SourceOrder

namespace MarkupCensus

namespace ScanConfig

/-- One configuration lets through what another does: its allow-set is absent or larger, it records
dotted names if the other does, and it asks for no other modules. -/
structure Widens (wide narrow : ScanConfig) : Prop where
  components : ∀ names ∈ wide.components, ∃ fewer ∈ narrow.components, fewer ⊆ names
  subComponents : narrow.subComponents = true → wide.subComponents = true
  importedFrom : wide.importedFrom = none ∨ wide.importedFrom = narrow.importedFrom

variable {narrow wide : ScanConfig} {name : String}

theorem Widens.allows (h : wide.Widens narrow) (ha : narrow.allows name = true) :
    wide.allows name = true := by
  unfold ScanConfig.allows at ha ⊢
  cases hw : wide.components with
  | none => rfl
  | some names =>
    obtain ⟨fewer, hn, hsub⟩ := h.components names hw
    rw [Option.mem_def.1 hn] at ha
    simp only [Option.all_some, Bool.or_eq_true, List.contains_iff_mem] at ha ⊢
    exact ha.imp (hsub ·) (hsub ·)

theorem Widens.admits (h : wide.Widens narrow) {imports : ImportTable}
    (ha : narrow.admits imports name = .ok true) : wide.admits imports name = .ok true := by
  unfold ScanConfig.admits at ha ⊢
  rcases h.importedFrom with hw | hw
  · rw [hw]
  · rw [hw]
    exact ha

theorem Widens.accepts (h : wide.Widens narrow) {imports : ImportTable}
    (ha : narrow.accepts imports name = .ok true) : wide.accepts imports name = .ok true := by
  rw [accepts_eq_true_iff] at ha ⊢
  exact ⟨h.allows ha.1, ha.2.1.imp_left h.subComponents, h.admits ha.2.2⟩

end ScanConfig

namespace Node

variable {narrow wide : ScanConfig} {imports : ImportTable} {f : SourceFile}

end Node

section Scan

variable {narrow wide : ScanConfig} {f : SourceFile} {parsed : Except ParseFailure Node}

end Scan

namespace Sample

end Sample

namespace Sample

end Sample

end MarkupCensus
