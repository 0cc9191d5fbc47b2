import ModuleAudit.Proofs.DependencyGraph.Mirror

/-!
# Building a graph again

A build can start from the graph of an earlier one of the same modules. Its nodes are
replaced, its links stay where they are, and the counts of the links and the errors add
up.

The nodes are replaced one module at a time, so that in the meantime new nodes stand
beside old ones (`renew`). Importers are entered only after the last old node is gone, and
therefore on new nodes only: building module by module is building from nothing but the
modules. An import whose link is there already adds one to its count and does nothing
else, and after the first build that is every import.
-/

namespace ModuleAudit.DependencyGraph

/-! ## Module by module -/

/-- Put the new node of one module in the place of its old one, if it has one. The nodes
of the other modules stay, whether they are old or new. -/
def renewModule (resolve : Resolution) (g : DependencyGraph) (e : Text × ModuleFacts) :
    DependencyGraph where
  nodes := g.nodes.insert e.1 (ModuleNode.buildOrBare resolve e.1 e.2)
  links := g.links.addNode e.1
  errors := g.errors ++ (errorOf resolve e).toList

/-- Build the graph of the modules on top of an earlier one, module by module. -/
def renew (modules : ModuleMap) (resolve : Resolution) (before : DependencyGraph) :
    DependencyGraph :=
  let g := modules.entries.foldl (renewModule resolve) before
  (internalImports g.nodes).foldl enterImport g

theorem foldl_renewModule (resolve : Resolution) (entries : List (Text × ModuleFacts))
    (g : DependencyGraph) :
    entries.foldl (renewModule resolve) g =
      { nodes := g.nodes.insertMany
          (entries.map fun e => (e.1, ModuleNode.buildOrBare resolve e.1 e.2))
        links := (entries.map Prod.fst).foldl Digraph.addNode g.links
        errors := g.errors ++ entries.filterMap (errorOf resolve) } := by
  induction entries generalizing g with
  | nil => simp [Table.insertMany]
  | cons e entries ih =>
    rw [List.foldl_cons, ih]
    cases failed : errorOf resolve e <;> simp [renewModule, Table.insertMany, failed]

/-- As long as the old nodes are those of the first modules, all of them are replaced. -/
theorem renew_eq_build {modules : ModuleMap} {before : DependencyGraph}
    (started : before.nodes.keys <+: modules.keys) (resolve : Resolution) :
    renew modules resolve before = build modules resolve before := by
  have keys : (modules.entries.map fun e => (e.1, ModuleNode.buildOrBare resolve e.1 e.2)).map
      Prod.fst = modules.keys := by
    rw [List.map_map]
    rfl
  have nodes : before.nodes.insertMany
      (modules.entries.map fun e => (e.1, ModuleNode.buildOrBare resolve e.1 e.2)) =
        modules.map (ModuleNode.buildOrBare resolve) := by
    ext1
    exact Table.entries_insertMany (keys ▸ modules.keys_nodup) (keys ▸ started)
  rw [renew, foldl_renewModule, nodes]
  rfl

/-! ## Links that are there already -/

/-- A link with another count. Its ends and the import that it remembers stay. -/
def recount (e : Edge Text Link) (count : Nat) : Edge Text Link :=
  { e with label := { e.label with count } }

theorem map_ends_recount (edges : List (Edge Text Link)) (count : Edge Text Link → Nat) :
    (edges.map fun e => recount e (count e)).map Edge.ends = edges.map Edge.ends := by
  rw [List.map_map]
  rfl

/-- An import whose link is there is counted, and that is all. -/
theorem enterLink_of_hasEdge {links : Digraph Text Link} {i : Text × InternalImport}
    (there : links.hasEdge i.1 i.2.target = true) :
    (enterLink links i).nodes = links.nodes ∧
      (enterLink links i).edges = links.edges.map fun e =>
        recount e (e.label.count + (between e.source e.target [i]).length) := by
  rw [enterLink, Digraph.addEdge_of_hasEdge there]
  refine ⟨rfl, List.map_congr_left fun e _ => ?_⟩
  by_cases same : i.1 = e.source ∧ i.2.target = e.target
  · simp [Digraph.joins, between, recount, same]
  · have other : Digraph.joins i.1 i.2.target e = false := by
      rw [← Bool.not_eq_true, Digraph.joins_iff]
      exact fun h => same ⟨h.1.symm, h.2.symm⟩
    simp [other, between, recount, same]

theorem foldl_enterLink_of_hasEdge {imports : List (Text × InternalImport)}
    {links : Digraph Text Link} (there : ∀ i ∈ imports, links.hasEdge i.1 i.2.target = true) :
    (imports.foldl enterLink links).nodes = links.nodes ∧
      (imports.foldl enterLink links).edges = links.edges.map fun e =>
        recount e (e.label.count + (between e.source e.target imports).length) := by
  induction imports generalizing links with
  | nil => simp [between, recount]
  | cons i imports ih =>
    obtain ⟨first, rest⟩ := List.forall_mem_cons.1 there
    obtain ⟨nodes, edges⟩ := enterLink_of_hasEdge first
    have still : ∀ j ∈ imports, (enterLink links i).hasEdge j.1 j.2.target = true := by
      intro j hj
      rw [← rest j hj]
      apply Digraph.hasEdge_eq_of_ends
      rw [edges, map_ends_recount]
    obtain ⟨nodes', edges'⟩ := ih still
    refine ⟨nodes'.trans nodes, ?_⟩
    rw [List.foldl_cons, edges', edges, List.map_map]
    refine List.map_congr_left fun e _ => ?_
    have split : between e.source e.target (i :: imports) =
        between e.source e.target [i] ++ between e.source e.target imports := by
      rw [between, between, between, ← List.filter_append, List.singleton_append]
    rw [split, List.length_append, ← Nat.add_assoc]
    rfl

/-! ## Builds in a row -/

section Builds

variable (modules : ModuleMap) (resolve : Resolution)

/-- After one build every import that leads to a module has its link. -/
theorem hasEdge_links_build {i : Text × InternalImport} (hi : i ∈ linkedImports modules resolve) :
    (build modules resolve {}).links.hasEdge i.1 i.2.target = true := by
  have counted : i ∈ between i.1 i.2.target (linkedImports modules resolve) := by
    simp [between, hi]
  rw [Digraph.hasEdge_iff_label?, label?_links_build_eq_between, Option.isSome_map,
    List.isSome_head?]
  exact List.ne_nil_of_mem counted

/-- After one build a link counts the imports behind it. -/
theorem count_links_build {e : Edge Text Link}
    (he : e ∈ (build modules resolve {}).links.edges) :
    e.label.count = (between e.source e.target (linkedImports modules resolve)).length := by
  have label := Digraph.label?_of_mem he
  rw [label?_links_build_eq_between] at label
  obtain ⟨i, -, remembered⟩ := Option.map_eq_some_iff.1 label
  exact (congrArg Link.count remembered).symm

/-- One more build adds what the first one counted. -/
theorem links_build_again {before : DependencyGraph} {count : Edge Text Link → Nat}
    (nodes : before.links.nodes = (build modules resolve {}).links.nodes)
    (edges : before.links.edges =
      (build modules resolve {}).links.edges.map fun e => recount e (count e)) :
    (build modules resolve before).links.nodes = (build modules resolve {}).links.nodes ∧
      (build modules resolve before).links.edges =
        (build modules resolve {}).links.edges.map fun e =>
          recount e (count e + e.label.count) := by
  have known : modules.keys ⊆ before.links.nodes := by
    rw [nodes, nodes_links_build]
    exact List.Subset.refl _
  have there : ∀ i ∈ linkedImports modules resolve,
      before.links.hasEdge i.1 i.2.target = true := by
    intro i hi
    rw [← hasEdge_links_build modules resolve hi]
    apply Digraph.hasEdge_eq_of_ends
    rw [edges, map_ends_recount]
  obtain ⟨nodes', edges'⟩ := foldl_enterLink_of_hasEdge there
  rw [links_build, Digraph.foldl_addNode_of_subset known]
  refine ⟨nodes'.trans nodes, ?_⟩
  rw [edges', edges, List.map_map]
  refine List.map_congr_left fun e he => ?_
  rw [count_links_build modules resolve he]
  rfl

/-- The links after some builds are those of the first, with the counts of all. -/
theorem links_iterate (n : Nat) :
    ((build modules resolve)^[n + 1] {}).links.nodes = (build modules resolve {}).links.nodes ∧
      ((build modules resolve)^[n + 1] {}).links.edges =
        (build modules resolve {}).links.edges.map fun e =>
          recount e ((n + 1) * e.label.count) := by
  induction n with
  | zero => simp [recount]
  | succ n ih =>
    rw [Function.iterate_succ_apply']
    obtain ⟨nodes, edges⟩ := links_build_again modules resolve ih.1 ih.2
    refine ⟨nodes, edges.trans (List.map_congr_left fun e _ => ?_)⟩
    rw [← Nat.succ_mul]

theorem nodes_build (before : DependencyGraph) :
    (build modules resolve before).nodes = (build modules resolve {}).nodes := by
  rw [build_eq, build_eq]

theorem errors_build (before : DependencyGraph) :
    (build modules resolve before).errors =
      before.errors ++ (build modules resolve {}).errors := by
  rw [build_eq, build_eq, List.nil_append]

/-- Errors are reported again by every build. -/
theorem errors_iterate (k : Nat) :
    ((build modules resolve)^[k] {}).errors =
      (List.replicate k (build modules resolve {}).errors).flatten := by
  induction k with
  | zero => rfl
  | succ k ih =>
    rw [Function.iterate_succ_apply', errors_build, ih, List.replicate_succ', List.flatten_concat]

/-- Building in a row gives the same module by module: before each build there are either
no nodes or those of all modules. -/
theorem renew_iterate (k : Nat) :
    (renew modules resolve)^[k] {} = (build modules resolve)^[k] {} := by
  induction k with
  | zero => rfl
  | succ k ih =>
    have started : ((build modules resolve)^[k] {}).nodes.keys <+: modules.keys := by
      cases k with
      | zero => exact List.nil_prefix
      | succ k =>
        rw [Function.iterate_succ_apply', keys_build]
    rw [Function.iterate_succ_apply', Function.iterate_succ_apply', ih, renew_eq_build started]

end Builds

/-- To build again changes nothing but counts and errors. After any number of builds, the
nodes and all their lists are those of one build; the links have the same nodes and the
same edges, successors and predecessors in the same order, and remember the same imports;
every edge counts its imports once for each build, and every error is listed once for each
build. Nor does it matter that a build replaces the nodes one by one. -/
theorem build_repeated (modules : ModuleMap) (resolve : Resolution) (k : Nat) (built : 1 ≤ k) :
    let single := build modules resolve {}
    let repeated := (build modules resolve)^[k] {}
    (renew modules resolve)^[k] {} = repeated ∧
      repeated.nodes = single.nodes ∧
      repeated.links.nodes = single.links.nodes ∧
      (repeated.links.edges = single.links.edges.map fun e => recount e (k * e.label.count)) ∧
      (repeated.links.edgesByNode =
        single.links.edgesByNode.map fun e => recount e (k * e.label.count)) ∧
      (∀ v, repeated.links.successors v = single.links.successors v ∧
        repeated.links.predecessors v = single.links.predecessors v) ∧
      repeated.errors = (List.replicate k single.errors).flatten := by
  intro single repeated
  obtain ⟨n, rfl⟩ : ∃ n, k = n + 1 := ⟨k - 1, by omega⟩
  obtain ⟨nodes, edges⟩ := links_iterate modules resolve n
  have out (v : Text) : repeated.links.outEdges v =
      (single.links.outEdges v).map fun e => recount e ((n + 1) * e.label.count) := by
    rw [Digraph.outEdges, edges, List.filter_map]
    rfl
  refine ⟨renew_iterate modules resolve (n + 1), ?_, nodes, edges, ?_, fun v => ⟨?_, ?_⟩,
    errors_iterate modules resolve (n + 1)⟩
  · simp only [repeated, Function.iterate_succ_apply', nodes_build]
    rfl
  · rw [Digraph.edgesByNode, Digraph.edgesByNode, nodes, List.map_flatMap]
    exact List.flatMap_congr fun v _ => out v
  · rw [Digraph.successors, Digraph.successors, out, List.map_map]
    rfl
  · rw [Digraph.predecessors, Digraph.predecessors, edges, List.filter_map, List.map_map]
    rfl

/-- The resolution of `mutualResolver`, but for one specifier that it fails on. -/
def mutualResolution : Resolution := fun specifier importer =>
  if specifier = "./missing" then .error "no such disk"
  else mutualResolver.resolution specifier importer

/-- Three builds of two modules, one of which fails and is imported twice by the other. -/
theorem build_repeated_thrice :
    let g := (build mutualModules mutualResolution)^[3] {}
    g.nodes.keys = ["b.js", "a.js"] ∧
      g.links.edges.map Edge.label = [⟨"./a", some 1, 6⟩, ⟨"./b", some 2, 3⟩] ∧
      g.errors.length = 3 := by
  intro g
  obtain ⟨-, nodes, -, edges, -, -, errors⟩ :=
    build_repeated mutualModules mutualResolution 3 (by decide)
  refine ⟨?_, ?_, ?_⟩
  · rw [nodes]
    decide
  · rw [edges]
    decide
  · rw [errors]
    decide

end ModuleAudit.DependencyGraph
