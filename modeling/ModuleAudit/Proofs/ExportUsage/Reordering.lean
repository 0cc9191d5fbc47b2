import ModuleAudit.Proofs.DependencyGraph.Alike
import ModuleAudit.Proofs.ExportUsage.Ledger

/-!
# Export usage in another order

The consumers of an export are collected from all nodes, so that graphs which are
alike list them in different orders but agree on whether there are any. The unused
exports and the names asked for in vain are therefore the same up to their order.
-/

namespace ModuleAudit

theorem ModuleNode.Alike.keepsLedger_eq {n n' : ModuleNode} (h : n.Alike n') :
    n.keepsLedger = n'.keepsLedger := by
  rw [keepsLedger, keepsLedger, h.exports, h.fileType]

namespace UsageReport

variable {nodes nodes' : NodeMap} (alike : NodeMap.Alike nodes nodes')

include alike

theorem consumersOf_perm (module name : Text) :
    (consumersOf nodes module name).Perm (consumersOf nodes' module name) :=
  alike.flatMap_perm fun _ _ _ h => by rw [h.imports]

theorem isEmpty_consumersOf_eq (module name : Text) :
    (consumersOf nodes module name).isEmpty = (consumersOf nodes' module name).isEmpty := by
  rw [Bool.eq_iff_iff, List.isEmpty_iff_length_eq_zero, List.isEmpty_iff_length_eq_zero,
    (consumersOf_perm alike module name).length_eq]

theorem asksInVain_eq : asksInVain nodes = asksInVain nodes' := by
  funext target b
  have read (nodes : NodeMap) : asksInVain nodes target b =
      (b.kind = .named && ((nodes.get? target).map fun n => n.keepsLedger &&
        !(Ledger.declaredNames n.exports).contains b.requestedName).getD false) := by
    rw [asksInVain]
    cases nodes.get? target <;> rfl
  rw [read, read, alike.map_get?_eq fun n n' h => by rw [h.keepsLedger_eq, h.exports]]

theorem missing_perm : (ofNodes nodes).missing.Perm (ofNodes nodes').missing := by
  rw [missing_ofNodes, missing_ofNodes, missingOf, missingOf, asksInVain_eq alike]
  exact alike.flatMap_perm fun _ _ _ h => by rw [h.imports]

theorem unused_perm : (ofNodes nodes).unused.Perm (ofNodes nodes').unused := by
  rw [unused_ofNodes, unused_ofNodes, flatMap_filter_eq, flatMap_filter_eq]
  simp only [isEmpty_consumersOf_eq alike]
  exact alike.flatMap_perm fun _ _ _ h => by rw [h.keepsLedger_eq, h.exports]

end UsageReport

end ModuleAudit
