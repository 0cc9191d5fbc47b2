import Mathlib.Data.Prod.Lex
import Mathlib.Order.Lattice
import ModuleAudit.Coupling
import ModuleAudit.Proofs.DependencyGraph.Alike
import ModuleAudit.Proofs.Text.Order

/-!
# Coupling in another order

The fan-outs and the imported modules are sorted, the latter by their number of
importers and then by their path, which tells any two of them apart. Graphs that
are alike have the same ones, so that all figures of a profile are the same; only
the lists that are not sorted follow the order of the modules.
-/

namespace ModuleAudit

theorem ModuleNode.Alike.fanOut_eq {n n' : ModuleNode} (h : n.Alike n') : n.fanOut = n'.fanOut :=
  congrArg List.length h.imports

theorem ModuleNode.Alike.fanIn_eq {n n' : ModuleNode} (h : n.Alike n') : n.fanIn = n'.fanIn :=
  h.importedBy.length_eq

theorem ModuleNode.Alike.isEmpty_importedBy_eq {n n' : ModuleNode} (h : n.Alike n') :
    n.importedBy.isEmpty = n'.importedBy.isEmpty := by
  rw [Bool.eq_iff_iff, List.isEmpty_iff_length_eq_zero, List.isEmpty_iff_length_eq_zero,
    h.importedBy.length_eq]

namespace CouplingMeter

/-- Imported modules are ordered by the number of importers, the most first, and
then by their paths. -/
def rank (e : Text × Nat) : ℕᵒᵈ ×ₗ List Nat := toLex (OrderDual.toDual e.2, e.1.codes)

theorem rank_injective : Function.Injective rank := by
  rintro ⟨path, count⟩ ⟨path', count'⟩ same
  obtain ⟨counts, paths⟩ := Prod.mk.inj (toLex_inj.1 same)
  exact Prod.ext (Text.codes_injective paths) (OrderDual.toDual_inj.1 counts)

theorem comesBefore_iff (a b : Text × Nat) : comesBefore a b = true ↔ rank a ≤ rank b := by
  rw [rank, rank, Prod.Lex.toLex_le_toLex]
  simp [comesBefore, Text.atMost_iff]

variable {nodes nodes' : NodeMap} (alike : NodeMap.Alike nodes nodes')

include alike

theorem fanOuts_eq : fanOuts nodes = fanOuts nodes' :=
  mergeSort_eq_of_perm Function.injective_id (by simp)
    (alike.map_values_perm fun _ _ h => h.fanOut_eq)

theorem importedModules_eq : importedModules nodes = importedModules nodes' :=
  mergeSort_eq_of_perm rank_injective comesBefore_iff
    (alike.filterMap_perm fun _ _ _ h => by rw [h.isEmpty_importedBy_eq, h.fanIn_eq])

theorem entryCandidates_perm (threshold : Int) (excludePatterns : List Text) (root : Option Text) :
    (profile ⟨nodes, threshold, excludePatterns, root⟩).entryCandidates.Perm
      (profile ⟨nodes', threshold, excludePatterns, root⟩).entryCandidates :=
  alike.filterMap_perm fun _ _ _ h => by rw [h.isEmpty_importedBy_eq, h.imports]

/-- The figures of a profile do not depend on the order of the modules. -/
theorem profile_eq (threshold : Int) (excludePatterns : List Text) (root : Option Text) :
    { profile ⟨nodes, threshold, excludePatterns, root⟩ with entryCandidates := [] } =
      { profile ⟨nodes', threshold, excludePatterns, root⟩ with entryCandidates := [] } := by
  simp only [profile, fanOuts_eq alike, importedModules_eq alike]

theorem findings_perm (threshold : Int) (excludePatterns : List Text) (root : Option Text) :
    (findings ⟨nodes, threshold, excludePatterns, root⟩).Perm
      (findings ⟨nodes', threshold, excludePatterns, root⟩) :=
  alike.filterMap_perm fun _ _ _ h => by rw [h.fanOut_eq]

end CouplingMeter

end ModuleAudit
