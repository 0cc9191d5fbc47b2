import ModuleAudit.Proofs.DependencyGraph.Mirror

/-!
# Graphs in another order

Two graphs are alike when they have the same modules in any order, and the nodes
of each module agree but for the order of their importers. Whatever is collected
from the nodes without regard to that order is then the same up to its order, and
whatever is counted is the same.
-/

namespace ModuleAudit

/-- Nodes that agree but for the order of their importers. -/
structure ModuleNode.Alike (n n' : ModuleNode) : Prop where
  fileType : n.fileType = n'.fileType
  imports : n.imports = n'.imports
  exports : n.exports = n'.exports
  external : n.external = n'.external
  unresolved : n.unresolved = n'.unresolved
  importedBy : n.importedBy.Perm n'.importedBy

/-- The same modules in any order, with nodes that are alike. -/
structure NodeMap.Alike (nodes nodes' : NodeMap) : Prop where
  keys : nodes.keys.Perm nodes'.keys
  node : ∀ path n n', nodes.get? path = some n → nodes'.get? path = some n' → n.Alike n'

namespace NodeMap.Alike

variable {β : Type} {nodes nodes' : NodeMap} (alike : Alike nodes nodes')

include alike

/-- What alike nodes have in common can be read from either graph. -/
theorem map_get?_eq {f : ModuleNode → β} (respects : ∀ n n', n.Alike n' → f n = f n')
    (path : Text) : (nodes.get? path).map f = (nodes'.get? path).map f := by
  have known : (nodes.get? path).isSome = (nodes'.get? path).isSome := by
    rw [Bool.eq_iff_iff, Table.isSome_get?, Table.isSome_get?, alike.keys.mem_iff]
  cases hn : nodes.get? path with
  | none =>
    rw [hn, Option.isSome_none, eq_comm, Option.isSome_eq_false_iff, Option.isNone_iff_eq_none]
      at known
    rw [known]
  | some n =>
    rw [hn, Option.isSome_some, eq_comm, Option.isSome_iff_exists] at known
    obtain ⟨n', hn'⟩ := known
    rw [hn', Option.map_some, Option.map_some, respects n n' (alike.node path n n' hn hn')]

theorem flatMap_perm {f : Text × ModuleNode → List β}
    (respects : ∀ path n n', n.Alike n' → f (path, n) = f (path, n')) :
    (nodes.entries.flatMap f).Perm (nodes'.entries.flatMap f) :=
  Table.flatMap_entries_perm alike.keys fun path n n' hn hn' =>
    .of_eq (respects path n n' (alike.node path n n' hn hn'))

theorem filterMap_perm {f : Text × ModuleNode → Option β}
    (respects : ∀ path n n', n.Alike n' → f (path, n) = f (path, n')) :
    (nodes.entries.filterMap f).Perm (nodes'.entries.filterMap f) :=
  Table.filterMap_entries_perm alike.keys fun path n n' hn hn' =>
    respects path n n' (alike.node path n n' hn hn')

theorem flatMap_values_perm {f : ModuleNode → List β}
    (respects : ∀ n n', n.Alike n' → f n = f n') :
    (nodes.values.flatMap f).Perm (nodes'.values.flatMap f) := by
  rw [Table.values, Table.values, List.flatMap_map, List.flatMap_map]
  exact alike.flatMap_perm fun _ => respects

theorem map_values_perm {f : ModuleNode → β} (respects : ∀ n n', n.Alike n' → f n = f n') :
    (nodes.values.map f).Perm (nodes'.values.map f) := by
  rw [List.map_eq_flatMap, List.map_eq_flatMap]
  exact alike.flatMap_values_perm fun n n' h => by rw [respects n n' h]

/-! ## Counts and links -/

theorem size_eq : nodes.size = nodes'.size := by
  rw [← Table.length_keys, ← Table.length_keys, alike.keys.length_eq]

theorem internalCount_eq : internalCount nodes = internalCount nodes' :=
  (alike.flatMap_values_perm fun _ _ h => h.imports).length_eq

theorem externals_perm : (externals nodes).Perm (externals nodes') :=
  alike.flatMap_values_perm fun _ _ h => h.external

theorem originCount_eq (origin : Origin) : originCount nodes origin = originCount nodes' origin :=
  alike.externals_perm.countP_eq _

theorem unresolvedCount_eq : unresolvedCount nodes = unresolvedCount nodes' :=
  (alike.flatMap_values_perm fun _ _ h => h.unresolved).length_eq

theorem unresolvedImports_perm :
    (DependencyGraph.unresolvedImports nodes).Perm (DependencyGraph.unresolvedImports nodes') :=
  alike.flatMap_perm fun path _ _ h => congrArg (List.map fun s => (path, s)) h.unresolved

theorem importsInto_eq (a b : Text) :
    DependencyGraph.importsInto nodes a b = DependencyGraph.importsInto nodes' a b := by
  have read (nodes : NodeMap) : DependencyGraph.importsInto nodes a b =
      (((nodes.get? a).map ModuleNode.imports).getD []).filter fun i => i.target = b := by
    rw [DependencyGraph.importsInto]
    cases nodes.get? a <;> rfl
  rw [read, read, alike.map_get?_eq fun _ _ h => h.imports]

end NodeMap.Alike

end ModuleAudit
