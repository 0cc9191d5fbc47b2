import ModuleAudit.Proofs.Cycle.Renaming
import ModuleAudit.Proofs.DependencyGraph.Mirror

/-!
# Renaming the modules of a dependency graph

If resolution commutes with a renaming of the modules, so does building the graph:
each import is placed as before, with its target renamed, and both passes over the
placed imports only compare paths.
-/

namespace ModuleAudit

def InternalImport.rename (f : Text → Text) (i : InternalImport) : InternalImport :=
  { i with target := f i.target }

def Importer.rename (f : Text → Text) (i : Importer) : Importer := { i with module := f i.module }

/-- A placement whose target is renamed, if it has one. -/
def Placement.rename (f : Text → Text) : Placement → Placement
  | .internal i => .internal (i.rename f)
  | .external i => .external i
  | .unresolved s => .unresolved s

def ModuleNode.rename (f : Text → Text) (n : ModuleNode) : ModuleNode :=
  { n with
    imports := n.imports.map (InternalImport.rename f)
    importedBy := n.importedBy.map (Importer.rename f) }

theorem ModuleNode.rename_rename (f h : Text → Text) (n : ModuleNode) :
    (n.rename f).rename h = n.rename (h ∘ f) := by
  simp only [ModuleNode.rename, List.map_map]
  rfl

/-- The nodes with their paths renamed, everywhere. -/
def NodeMap.rename (f : Text ↪ Text) (nodes : NodeMap) : NodeMap :=
  Table.rename f (nodes.map fun _ => ModuleNode.rename f)

namespace NodeMap

variable (f : Text ↪ Text)

@[simp] theorem entries_rename (nodes : NodeMap) :
    (nodes.rename f).entries = nodes.entries.map fun e => (f e.1, e.2.rename f) := by
  simp [NodeMap.rename, Function.comp_def]

theorem get?_rename (nodes : NodeMap) (path : Text) :
    (nodes.rename f).get? (f path) = (nodes.get? path).map (ModuleNode.rename f) := by
  rw [NodeMap.rename, Table.get?_rename, Table.get?_map]

end NodeMap

/-- Every import of the modules resolves under the renaming as it does without, to
the renamed target. -/
def Resolution.Renames (f : Text → Text) (modules : ModuleMap) (resolve resolve' : Resolution) :
    Prop :=
  ∀ e ∈ modules.entries, ∀ s ∈ e.2.imports, isRelativeSpecifier s.source = true →
    (resolve' s.source (f e.1)).map given =
      ((resolve s.source e.1).map given).map (Option.map f)

/-! ## Placing imports -/

namespace ModuleNode

variable {f : Text → Text}

theorem ofPlacements_rename (facts : ModuleFacts) (placements : List Placement) :
    ofPlacements facts (placements.map (Placement.rename f)) =
      (ofPlacements facts placements).rename f := by
  have internal (p : Placement) :
      (p.rename f).internal? = p.internal?.map (InternalImport.rename f) := by
    cases p <;> rfl
  have external (p : Placement) : (p.rename f).external? = p.external? := by
    cases p <;> rfl
  have unresolved (p : Placement) : (p.rename f).unresolved? = p.unresolved? := by
    cases p <;> rfl
  simp only [ofPlacements, ModuleNode.rename, List.filterMap_map, Function.comp_def, internal,
    external, unresolved, List.map_filterMap, List.map_nil]

theorem placeImport_rename {resolve resolve' : Resolution} {path : Text} {s : ImportStatement}
    (renames : isRelativeSpecifier s.source = true →
      (resolve' s.source (f path)).map given =
        ((resolve s.source path).map given).map (Option.map f)) :
    placeImport resolve' (f path) s = (placeImport resolve path s).map (Placement.rename f) := by
  rw [placeImport_eq, placeImport_eq]
  split
  · rename_i relative
    rw [renames relative]
    cases (resolve s.source path).map given with
    | error reason => rfl
    | ok target => cases target <;> rfl
  · rfl

theorem buildOrBare_rename {resolve resolve' : Resolution} {path : Text} {facts : ModuleFacts}
    (renames : ∀ s ∈ facts.imports, isRelativeSpecifier s.source = true →
      (resolve' s.source (f path)).map given =
        ((resolve s.source path).map given).map (Option.map f)) :
    buildOrBare resolve' (f path) facts = (buildOrBare resolve path facts).rename f := by
  have placed : facts.imports.mapM (placeImport resolve' (f path)) =
      (facts.imports.mapM (placeImport resolve path)).map (List.map (Placement.rename f)) :=
    mapM_eq_map_mapM fun s hs => placeImport_rename (renames s hs)
  rw [buildOrBare, buildOrBare, build, build, placed]
  cases facts.imports.mapM (placeImport resolve path) with
  | error reason => rfl
  | ok placements => exact ofPlacements_rename facts placements

end ModuleNode

/-! ## Both passes -/

namespace DependencyGraph

variable {f : Text ↪ Text}

def renameImport (f : Text → Text) (e : Text × InternalImport) : Text × InternalImport :=
  (f e.1, e.2.rename f)

theorem internalImports_rename (nodes : NodeMap) :
    internalImports (nodes.rename f) = (internalImports nodes).map (renameImport f) := by
  simp only [internalImports, NodeMap.entries_rename, List.flatMap_map, List.map_flatMap,
    ModuleNode.rename, List.map_map]
  rfl

theorem known_rename (keys : List Text) (imports : List (Text × InternalImport)) :
    known (keys.map f) (imports.map (renameImport f)) =
      (known keys imports).map (renameImport f) := by
  rw [known, List.filter_map, known]
  congr 2
  funext e
  rw [Function.comp_apply, Bool.eq_iff_iff, List.contains_iff_mem, List.contains_iff_mem]
  exact List.mem_map_of_injective f.injective

theorem withImporters_rename (imports : List (Text × InternalImport)) (nodes : NodeMap) :
    withImporters (imports.map (renameImport f)) (nodes.rename f) =
      NodeMap.rename f (withImporters imports nodes) := by
  rw [NodeMap.rename, withImporters, Table.map_rename, Table.map_map, NodeMap.rename,
    withImporters, Table.map_map]
  congr 2
  funext path node
  have targets : (imports.map (renameImport f)).filter (fun e => e.2.target = f path) =
      (imports.filter fun e => e.2.target = path).map (renameImport f) := by
    rw [List.filter_map]
    congr 2
    funext e
    simp [renameImport, InternalImport.rename, f.injective.eq_iff]
  simp only [ModuleNode.rename, targets, List.map_append, List.map_map]
  rfl

theorem foldl_enterLink_rename (imports : List (Text × InternalImport))
    (links : Digraph Text Link) :
    (imports.map (renameImport f)).foldl enterLink (links.rename f) =
      (imports.foldl enterLink links).rename f := by
  induction imports generalizing links with
  | nil => rfl
  | cons e imports ih =>
    have entered : enterLink (links.rename f) (renameImport f e) = (enterLink links e).rename f :=
      Digraph.addEdge_rename f links e.1 e.2.target _ _
    rw [List.map_cons, List.foldl_cons, List.foldl_cons, entered, ih]

theorem foldl_addNode_rename (paths : List Text) (links : Digraph Text Link) :
    (paths.map f).foldl Digraph.addNode (links.rename f) =
      (paths.foldl Digraph.addNode links).rename f := by
  induction paths generalizing links with
  | nil => rfl
  | cons path paths ih =>
    rw [List.map_cons, List.foldl_cons, List.foldl_cons, Digraph.addNode_rename, ih]

/-! ## A whole build -/

variable {modules : ModuleMap} {resolve resolve' : Resolution}
  (renames : Resolution.Renames f modules resolve resolve')

include renames

theorem plainNodes_rename :
    plainNodes (modules.rename f) resolve' = NodeMap.rename f (plainNodes modules resolve) := by
  rw [plainNodes, Table.map_rename, NodeMap.rename, plainNodes, Table.map_map]
  congr 1
  apply Table.map_congr
  intro e he
  exact ModuleNode.buildOrBare_rename (renames e he)

theorem nodes_build_rename :
    (build (modules.rename f) resolve' {}).nodes =
      NodeMap.rename f (build modules resolve {}).nodes := by
  rw [build_eq, build_eq]
  dsimp only
  rw [plainNodes_rename renames, internalImports_rename, withImporters_rename]

theorem links_build_rename :
    (build (modules.rename f) resolve' {}).links = (build modules resolve {}).links.rename f := by
  rw [build_eq, build_eq]
  dsimp only
  rw [plainNodes_rename renames, internalImports_rename, Table.keys_rename, known_rename,
    ← foldl_enterLink_rename, ← foldl_addNode_rename, Digraph.rename_empty]

end DependencyGraph

end ModuleAudit
