import ModuleAudit.DependencyGraph.Stats
import ModuleAudit.Proofs.DependencyGraph.Placement
import ModuleAudit.Proofs.Digraph.Links
import ModuleAudit.Proofs.Rearrangement
import ModuleAudit.Proofs.Table

/-!
# Both views of the dependency graph hold the same imports

Entering an import changes the node of its target and the link between the two
modules, and neither change looks at the other. The second pass of a build is
therefore two passes over one list of imports, and each has a closed form: every
node gains the importers that name it, in the order of the list, and every link
is labelled by the first of its imports and their number.
-/

namespace ModuleAudit.DependencyGraph

/-- What the target of an internal import lists about it. -/
def importerOf (e : Text × InternalImport) : Importer where
  module := e.1
  line := e.2.statement.line
  form := e.2.statement.form

def enterNode (nodes : NodeMap) (e : Text × InternalImport) : NodeMap :=
  nodes.modify e.2.target (ModuleNode.addImporter (importerOf e))

def enterLink (links : Digraph Text Link) (e : Text × InternalImport) : Digraph Text Link :=
  links.addEdge e.1 e.2.target
    { specifier := e.2.statement.source, line := e.2.statement.line, count := 1 }
    fun link => { link with count := link.count + 1 }

/-- The imports of a list that lead to known modules. -/
def known (keys : List Text) (imports : List (Text × InternalImport)) :
    List (Text × InternalImport) :=
  imports.filter fun e => keys.contains e.2.target

theorem mem_known_iff {keys : List Text} {imports : List (Text × InternalImport)}
    {e : Text × InternalImport} : e ∈ known keys imports ↔ e ∈ imports ∧ e.2.target ∈ keys := by
  simp [known]

@[simp] theorem keys_enterNode (nodes : NodeMap) (e : Text × InternalImport) :
    (enterNode nodes e).keys = nodes.keys :=
  nodes.keys_modify _ _

/-- The second pass acts on the nodes and on the links independently. -/
theorem foldl_enterImport (imports : List (Text × InternalImport)) (g : DependencyGraph) :
    imports.foldl enterImport g =
      { nodes := imports.foldl enterNode g.nodes
        links := (known g.nodes.keys imports).foldl enterLink g.links
        errors := g.errors } := by
  induction imports generalizing g with
  | nil => rfl
  | cons e imports ih =>
    rw [List.foldl_cons, ih, List.foldl_cons]
    by_cases target : e.2.target ∈ g.nodes.keys
    · have entered : enterImport g e =
          { g with nodes := enterNode g.nodes e, links := enterLink g.links e } :=
        if_pos ((g.nodes.contains_iff _).2 target)
      rw [entered]
      simp [known, target]
    · have ignored : enterImport g e = g :=
        if_neg fun h => target ((g.nodes.contains_iff _).1 h)
      have unchanged : enterNode g.nodes e = g.nodes := Table.modify_of_not_mem target _
      rw [ignored, unchanged]
      simp [known, target]

/-! ## Nodes -/

/-- The nodes with the importers that a list of imports adds to them. -/
def withImporters (imports : List (Text × InternalImport)) (nodes : NodeMap) : NodeMap :=
  nodes.map fun path node =>
    { node with
      importedBy := node.importedBy ++ (imports.filter fun e => e.2.target = path).map importerOf }

theorem foldl_enterNode (imports : List (Text × InternalImport)) (nodes : NodeMap) :
    imports.foldl enterNode nodes = withImporters imports nodes := by
  induction imports generalizing nodes with
  | nil =>
    ext1
    simp [withImporters]
  | cons e imports ih =>
    rw [List.foldl_cons, ih, withImporters, withImporters, enterNode, Table.modify, Table.map_map]
    congr 1
    funext path node
    by_cases target : path = e.2.target
    · simp [target, ModuleNode.addImporter]
    · simp [target, Ne.symm target]

/-- Importers are no imports. -/
theorem internalImports_withImporters (imports : List (Text × InternalImport)) (nodes : NodeMap) :
    internalImports (withImporters imports nodes) = internalImports nodes := by
  simp [internalImports, withImporters, List.flatMap_map]

/-! ## Links -/

/-- Imports between nodes bring no new node. -/
theorem nodes_foldl_enterLink {imports : List (Text × InternalImport)} {links : Digraph Text Link}
    {keys : List Text} (nodes : links.nodes = keys) (sources : ∀ e ∈ imports, e.1 ∈ keys)
    (targets : ∀ e ∈ imports, e.2.target ∈ keys) :
    (imports.foldl enterLink links).nodes = keys := by
  induction imports generalizing links with
  | nil => exact nodes
  | cons e imports ih =>
    obtain ⟨source, sources⟩ := List.forall_mem_cons.1 sources
    obtain ⟨target, targets⟩ := List.forall_mem_cons.1 targets
    rw [← nodes] at source target
    exact ih ((Digraph.nodes_addEdge source target _ _).trans nodes) sources targets

/-- The imports of a list that stand in one module and lead to another. -/
def between (a b : Text) (imports : List (Text × InternalImport)) : List (Text × InternalImport) :=
  imports.filter fun e => e.1 = a ∧ e.2.target = b

/-- The label of a link after its imports have been entered: a new one remembers
the first, and each of them is counted. -/
theorem label?_foldl_enterLink (a b : Text) (imports : List (Text × InternalImport))
    (links : Digraph Text Link) :
    (imports.foldl enterLink links).label? a b =
      match links.label? a b with
      | some link => some { link with count := link.count + (between a b imports).length }
      | none => (between a b imports).head?.map fun e =>
          { specifier := e.2.statement.source
            line := e.2.statement.line
            count := (between a b imports).length } := by
  induction imports generalizing links with
  | nil =>
    cases h : links.label? a b <;> simp [between, h]
  | cons e imports ih =>
    rw [List.foldl_cons, ih, enterLink, Digraph.label?_addEdge]
    by_cases same : e.1 = a ∧ e.2.target = b
    · have counted : between a b (e :: imports) = e :: between a b imports := by
        simp [between, same]
      obtain ⟨rfl, rfl⟩ := same
      rw [counted]
      cases h : links.label? e.1 e.2.target with
      | none => simp [Nat.add_comm]
      | some link => simp [Nat.add_assoc, Nat.add_comm]
    · have skipped : between a b (e :: imports) = between a b imports := by
        simp [between, same]
      rw [if_neg same, skipped]

/-! ## Imports of one module -/

/-- The imports of a module that lead to another. -/
def importsInto (nodes : NodeMap) (a b : Text) : List InternalImport :=
  ((nodes.get? a).elim [] ModuleNode.imports).filter fun i => i.target = b

theorem between_internalImports (nodes : NodeMap) (a b : Text) :
    between a b (internalImports nodes) = (importsInto nodes a b).map fun i => (a, i) := by
  have split : between a b (internalImports nodes) =
      ((internalImports nodes).filter fun e => e.1 = a).filter fun e => e.2.target = b := by
    simp [between, List.filter_filter, Bool.and_comm]
  rw [split, internalImports, Table.filter_flatMap_entries nodes ModuleNode.imports a,
    List.filter_map]
  rfl

/-- The imports that lead to one module, listed module by module. -/
theorem filter_internalImports (nodes : NodeMap) (b : Text) :
    (internalImports nodes).filter (fun e => e.2.target = b) =
      nodes.keys.flatMap fun a => (importsInto nodes a b).map fun i => (a, i) := by
  rw [internalImports, List.filter_flatMap, Table.keys, List.flatMap_map]
  refine List.flatMap_congr fun e he => ?_
  rw [List.filter_map, importsInto, Table.get?_of_mem_entries he]
  rfl

theorem between_known {keys : List Text} {b : Text} (hb : b ∈ keys) (a : Text)
    (imports : List (Text × InternalImport)) :
    between a b (known keys imports) = between a b imports := by
  rw [between, known, List.filter_filter]
  refine List.filter_congr fun e _ => ?_
  by_cases same : e.2.target = b
  · simp [same, hb]
  · simp [same]

/-- Sorting imports by their targets keeps each that leads to a known module once. -/
theorem flatMap_filter_target_perm {keys : List Text} (nodup : keys.Nodup)
    (imports : List (Text × InternalImport)) :
    (keys.flatMap fun b => imports.filter fun e => e.2.target = b).Perm (known keys imports) :=
  flatMap_filter_key_perm nodup fun _ => List.contains_iff_mem

theorem fst_mem_keys_of_mem_internalImports {nodes : NodeMap} {e : Text × InternalImport}
    (he : e ∈ internalImports nodes) : e.1 ∈ nodes.keys := by
  obtain ⟨entry, hentry, hi⟩ := List.mem_flatMap.1 he
  obtain ⟨i, -, rfl⟩ := List.mem_map.1 hi
  exact List.mem_map_of_mem hentry

/-! ## A whole build -/

section Build

variable (modules : ModuleMap) (resolve : Resolution) (before : DependencyGraph)

/-- The nodes before the second pass. -/
def plainNodes : NodeMap := modules.map (ModuleNode.buildOrBare resolve)

@[simp] theorem keys_plainNodes : (plainNodes modules resolve).keys = modules.keys :=
  modules.keys_map _

/-- A build enters the imports of the plain nodes into the nodes and the links. -/
theorem build_eq :
    build modules resolve before =
      { nodes := withImporters (internalImports (plainNodes modules resolve))
          (plainNodes modules resolve)
        links := (known modules.keys (internalImports (plainNodes modules resolve))).foldl enterLink
          (modules.keys.foldl Digraph.addNode before.links)
        errors := before.errors ++ modules.entries.filterMap (errorOf resolve) } := by
  unfold build
  dsimp only
  rw [foldl_enterImport, foldl_enterNode]
  rw [← keys_plainNodes modules resolve]
  rfl

theorem keys_build : (build modules resolve before).nodes.keys = modules.keys := by
  rw [build_eq, withImporters, Table.keys_map, keys_plainNodes]

theorem internalImports_build :
    internalImports (build modules resolve before).nodes =
      internalImports (plainNodes modules resolve) := by
  rw [build_eq, internalImports_withImporters]

/-- After a build a module lists the imports that lead to it, module by module
and in the order of their statements. -/
theorem importedBy_of_get?_build {b : Text} {node : ModuleNode}
    (hnode : (build modules resolve before).nodes.get? b = some node) :
    node.importedBy = ((internalImports (build modules resolve before).nodes).filter
      fun e => e.2.target = b).map importerOf := by
  rw [internalImports_build]
  rw [build_eq] at hnode
  simp only [withImporters, plainNodes, Table.get?_map, Option.map_map] at hnode
  obtain ⟨facts, -, rfl⟩ := Option.map_eq_some_iff.1 hnode
  simp [ModuleNode.importedBy_buildOrBare, plainNodes]

theorem nodes_links_build :
    (build modules resolve {}).links.nodes = modules.keys := by
  have entered : (modules.keys.foldl Digraph.addNode (.empty : Digraph Text Link)).nodes =
      modules.keys :=
    Digraph.nodes_foldl_addNode (by simpa [Digraph.empty] using modules.keys_nodup)
  rw [build_eq]
  refine nodes_foldl_enterLink entered (fun e he => ?_) fun e he => ?_
  · rw [← keys_plainNodes modules resolve]
    exact fst_mem_keys_of_mem_internalImports (mem_known_iff.1 he).1
  · exact (mem_known_iff.1 he).2

/-- The imports that a build enters into the links. -/
def linkedImports : List (Text × InternalImport) :=
  known modules.keys (internalImports (plainNodes modules resolve))

theorem links_build (before : DependencyGraph) :
    (build modules resolve before).links =
      (linkedImports modules resolve).foldl enterLink
        (modules.keys.foldl Digraph.addNode before.links) := by
  rw [build_eq, linkedImports]

theorem label?_links_build_eq_between (a b : Text) :
    (build modules resolve {}).links.label? a b =
      (between a b (linkedImports modules resolve)).head?.map fun i =>
        { specifier := i.2.statement.source
          line := i.2.statement.line
          count := (between a b (linkedImports modules resolve)).length } := by
  have empty := Digraph.label?_foldl_addNode modules.keys (.empty : Digraph Text Link) a b
  rw [links_build, label?_foldl_enterLink, empty]
  rfl

/-- After one build a link remembers the first of its imports and their number. -/
theorem label?_links_build (a : Text) {b : Text} (hb : b ∈ modules.keys) :
    (build modules resolve {}).links.label? a b =
      (importsInto (build modules resolve {}).nodes a b).head?.map fun first =>
        { specifier := first.statement.source
          line := first.statement.line
          count := (importsInto (build modules resolve {}).nodes a b).length } := by
  have same := between_internalImports (build modules resolve {}).nodes a b
  rw [internalImports_build] at same
  rw [label?_links_build_eq_between, linkedImports, between_known hb, same]
  simp [Function.comp_def]

/-- After one build the links lead from an importer to what it imports. -/
theorem links_build_iff (a : Text) {b : Text} (hb : b ∈ modules.keys) :
    (build modules resolve {}).links.hasEdge a b = true ↔
      importsInto (build modules resolve {}).nodes a b ≠ [] := by
  rw [Digraph.hasEdge_iff_label?, label?_links_build modules resolve a hb, Option.isSome_map,
    List.isSome_head?]

/-- The nodes list as many importers as there are imports that lead to them. -/
theorem length_importedBy_build :
    ((build modules resolve before).nodes.values.flatMap ModuleNode.importedBy).length =
      (known modules.keys (internalImports (plainNodes modules resolve))).length := by
  have values : (build modules resolve before).nodes.values.flatMap ModuleNode.importedBy =
      modules.keys.flatMap fun b => ((internalImports (plainNodes modules resolve)).filter
        fun e => e.2.target = b).map importerOf := by
    simp [build_eq, withImporters, plainNodes, Table.values, Table.keys, List.flatMap_map,
      ModuleNode.importedBy_buildOrBare]
  rw [values, ← List.map_flatMap, List.length_map]
  exact (flatMap_filter_target_perm modules.keys_nodup _).length_eq

theorem target_mem_of_leadsInto {paths : List Text} (leads : resolve.LeadsInto paths)
    {e : Text × InternalImport} (he : e ∈ internalImports (plainNodes modules resolve)) :
    e.2.target ∈ paths := by
  obtain ⟨entry, hentry, listed⟩ := List.mem_flatMap.1 he
  obtain ⟨i, hi, rfl⟩ := List.mem_map.1 listed
  obtain ⟨facts, -, rfl⟩ := List.mem_map.1 hentry
  exact leads _ _ _ (ModuleNode.resolve_of_mem_imports hi)

theorem internalCount_eq (nodes : NodeMap) :
    NodeMap.internalCount nodes = (internalImports nodes).length := by
  simp [NodeMap.internalCount, internalImports, Table.values, List.flatMap_map,
    List.length_flatMap]

/-- If every target is a module, no import is lost on the way to the importers. -/
theorem length_importedBy_of_leadsInto (leads : resolve.LeadsInto modules.keys) :
    ((build modules resolve before).nodes.values.flatMap ModuleNode.importedBy).length =
      NodeMap.internalCount (build modules resolve before).nodes := by
  have all : known modules.keys (internalImports (plainNodes modules resolve)) =
      internalImports (plainNodes modules resolve) :=
    List.filter_eq_self.2 fun e he =>
      List.contains_iff_mem.2 (target_mem_of_leadsInto modules resolve leads he)
  rw [length_importedBy_build, all, internalCount_eq, internalImports_build]

end Build

/-- One build lists every import on both of its ends. The modules are the nodes of
either view. A module lists its importers in the order of the modules and of their
statements; a link stands for all imports from one module to another, remembers
the first and counts them; dependencies and dependents are converse to each other.
Where every target is a module, there are as many importers as imports, and the
targets of a resolver are the paths it knows. -/
theorem build_mirrors (modules : ModuleMap) (resolve : Resolution) :
    let g := build modules resolve {}
    (g.nodes.keys = modules.keys ∧ g.links.nodes = modules.keys) ∧
      (∀ b node, g.nodes.get? b = some node →
        node.importedBy = g.nodes.keys.flatMap fun a =>
          (importsInto g.nodes a b).map fun i =>
            { module := a, line := i.statement.line, form := i.statement.form }) ∧
      (∀ a b, g.links.hasEdge a b = true ↔ b ∈ modules.keys ∧ importsInto g.nodes a b ≠ []) ∧
      (∀ a, ∀ b ∈ modules.keys, g.links.label? a b =
        (importsInto g.nodes a b).head?.map fun first =>
          { specifier := first.statement.source
            line := first.statement.line
            count := (importsInto g.nodes a b).length }) ∧
      (∀ a b, b ∈ g.dependencies a ↔ a ∈ g.dependents b) ∧
      (resolve.LeadsInto modules.keys →
        (g.nodes.values.flatMap ModuleNode.importedBy).length = NodeMap.internalCount g.nodes) ∧
      ∀ r : Resolver, r.paths ⊆ modules.keys → r.resolution.LeadsInto modules.keys := by
  intro g
  refine ⟨⟨keys_build modules resolve {}, nodes_links_build modules resolve⟩, ?_, ?_, ?_, ?_,
    length_importedBy_of_leadsInto modules resolve {}, fun r known =>
      r.resolution_leadsInto.mono known⟩
  · intro b node hnode
    rw [importedBy_of_get?_build modules resolve {} hnode, filter_internalImports,
      List.map_flatMap]
    simp [importerOf, Function.comp_def, g]
  · intro a b
    by_cases hb : b ∈ modules.keys
    · simp only [hb, true_and]
      exact links_build_iff modules resolve a hb
    · simp only [hb, false_and, iff_false]
      intro linked
      have target := (Digraph.Links.mem_nodes linked).2
      exact hb (nodes_links_build modules resolve ▸ target)
  · intro a b hb
    exact label?_links_build modules resolve a hb
  · intro a b
    exact (g.links.mem_successors a b).trans (g.links.mem_predecessors a b).symm

/-- Two modules import each other, one of them twice and itself once; the other
also imports what leads nowhere and what leads out of the project. -/
def mutualModules : ModuleMap :=
  let statement (source : Text) (line : Int) : ImportStatement :=
    { source, line := some line, bindings := [], form := "import" }
  .ofList
    [("b.js", { fileType := .code, exports := [], imports :=
        [statement "./a" 1, statement "./b" 2, statement "./a.js" 3] }),
      ("a.js", { fileType := .code, exports := [], imports :=
        [statement "./b" 1, statement "./missing" 2, statement "react" 3] })]

/-- The resolver that knows the paths of `mutualModules`. -/
def mutualResolver : Resolver :=
  .ofPaths mutualModules.keys none defaultExtensions defaultDataExtensions

theorem build_mirrors_mutual :
    let g := build mutualModules mutualResolver.resolution {}
    (g.nodes.get? "a.js").map ModuleNode.importedBy =
        some [⟨"b.js", some 1, "import"⟩, ⟨"b.js", some 3, "import"⟩] ∧
      g.links.label? "b.js" "a.js" = some ⟨"./a", some 1, 2⟩ ∧
      mutualResolver.resolution.LeadsInto mutualModules.keys ∧
      (g.nodes.values.flatMap ModuleNode.importedBy).length = 4 := by
  intro g
  obtain ⟨-, listed, -, labels, -, counted, leads⟩ :=
    build_mirrors mutualModules mutualResolver.resolution
  obtain ⟨node, hnode⟩ : ∃ node, g.nodes.get? "a.js" = some node :=
    Option.isSome_iff_exists.1 (by decide)
  have leads := leads mutualResolver fun _ known => known
  refine ⟨?_, (labels _ _ (by decide)).trans (by decide), leads,
    (counted leads).trans (by decide)⟩
  rw [hnode, Option.map_some, listed _ _ hnode]
  decide

end ModuleAudit.DependencyGraph
