import ModuleAudit.Proofs.DependencyGraph.Renaming
import ModuleAudit.Proofs.ExportUsage.Ledger

/-!
# Renaming the modules of a usage report

A report is determined by which bindings lead to which module. An injective
renaming of the modules leaves that as it is, so the report is the same but for the
modules that it names.
-/

namespace ModuleAudit

def Consumer.rename (f : Text → Text) (c : Consumer) : Consumer := { c with module := f c.module }

def LedgerEntry.rename (f : Text → Text) (e : LedgerEntry) : LedgerEntry :=
  { e with consumers := e.consumers.map (Consumer.rename f) }

def Ledger.rename (f : Text → Text) (ledger : Ledger) : Ledger :=
  ledger.map fun _ => LedgerEntry.rename f

def MissingExport.rename (f : Text → Text) (m : MissingExport) : MissingExport :=
  { m with importer := f m.importer, target := f m.target }

def UnusedExport.rename (f : Text → Text) (u : UnusedExport) : UnusedExport :=
  { u with module := f u.module }

theorem Ledger.rename_rename (f h : Text → Text) (ledger : Ledger) :
    (ledger.rename f).rename h = ledger.rename (h ∘ f) := by
  rw [Ledger.rename, Ledger.rename, Table.map_map, Ledger.rename]
  congr 1
  funext name entry
  simp only [LedgerEntry.rename, List.map_map]
  rfl

namespace UsageReport

variable (f : Text ↪ Text) (nodes : NodeMap)

theorem consumersOf_rename (module name : Text) :
    consumersOf (nodes.rename f) (f module) name =
      (consumersOf nodes module name).map (Consumer.rename f) := by
  simp only [consumersOf, NodeMap.entries_rename, List.flatMap_map, List.map_flatMap,
    ModuleNode.rename, InternalImport.rename, f.injective.eq_iff, List.map_map]
  rfl

theorem asksInVain_rename (target : Text) (b : Binding) :
    asksInVain (nodes.rename f) (f target) b = asksInVain nodes target b := by
  rw [asksInVain, NodeMap.get?_rename, Option.any_map]
  rfl

theorem filter_keepsLedger_rename :
    ((nodes.rename f).entries.filter fun e => e.2.keepsLedger) =
      (nodes.entries.filter fun e => e.2.keepsLedger).map fun e => (f e.1, e.2.rename f) := by
  rw [NodeMap.entries_rename, List.filter_map]
  rfl

theorem ledgerOf_rename (module : Text) (n : ModuleNode) :
    ledgerOf (nodes.rename f) (f module) (n.rename f) = (ledgerOf nodes module n).rename f := by
  rw [ledgerOf, Ledger.rename, ledgerOf, Table.map_map]
  congr 1
  funext name entry
  simp only [consumersOf_rename, LedgerEntry.rename]

theorem entries_ledgers_rename :
    (ofNodes (nodes.rename f)).ledgers.entries =
      (ofNodes nodes).ledgers.entries.map fun e => (f e.1, e.2.rename f) := by
  rw [entries_ledgers_ofNodes, filter_keepsLedger_rename, entries_ledgers_ofNodes, List.map_map,
    List.map_map]
  apply List.map_congr_left
  intro e _
  simp only [Function.comp_apply, ledgerOf_rename]

theorem missing_rename :
    (ofNodes (nodes.rename f)).missing = (ofNodes nodes).missing.map (MissingExport.rename f) := by
  rw [missing_ofNodes, missing_ofNodes]
  simp only [missingOf, NodeMap.entries_rename, List.flatMap_map, List.map_flatMap,
    ModuleNode.rename, InternalImport.rename, asksInVain_rename, List.map_map]
  rfl

theorem unused_rename :
    (ofNodes (nodes.rename f)).unused = (ofNodes nodes).unused.map (UnusedExport.rename f) := by
  rw [unused_ofNodes, unused_ofNodes, filter_keepsLedger_rename, List.flatMap_map,
    List.map_flatMap]
  apply List.flatMap_congr
  intro e _
  rw [List.map_filterMap]
  apply List.filterMap_congr
  intro x _
  rw [consumersOf_rename, List.isEmpty_map]
  split <;> rfl

end UsageReport

end ModuleAudit
