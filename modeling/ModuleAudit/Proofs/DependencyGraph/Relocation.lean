import ModuleAudit.Proofs.ExportUsage.Renaming
import ModuleAudit.Proofs.Resolver.Relocation

/-!
# A project in another directory

The modules of a project are known by their paths in it, and the project stands
in some directory. The resolver finds in each directory what it finds without one,
so the graph of the project in a directory is one graph of relative paths with each
path read under that directory. Two graphs of the same project are therefore
renamings of each other, and with them their cycles, components and usage reports:
all paths begin with the directory, so even their order is that of the relative
paths.

Two things are seen of a directory nevertheless. At the root a module path begins
with two slashes, and a normal path does not. And a code extension that goes on
after a slash can lead from the name of the directory to a module in it.
-/

namespace ModuleAudit

namespace Path

/-- To read paths under a directory, as a renaming. -/
def underEmbedding (directory : Text) : Text ↪ Text where
  toFun := under directory
  inj' := under_injective directory

theorem keepsOrder_under (directory : Text) : KeepsOrder (underEmbedding directory) := by
  intro a b
  have started (start a b : Text) :
      listBefore CodePoint.before (start ++ a) (start ++ b) = listBefore CodePoint.before a b := by
    induction start with
    | nil => rfl
    | cons c start ih => simpa [listBefore, CodePoint.before] using ih
  show listBefore CodePoint.before (directory ++ slash :: a) (directory ++ slash :: b) = _
  rw [List.append_cons, List.append_cons directory slash b]
  exact started _ a b

end Path

/-- The modules of a project in a directory, from their paths in the project. -/
def ModuleMap.under (directory : Text) (modules : ModuleMap) : ModuleMap :=
  modules.rename (Path.underEmbedding directory)

/-- A graph in which every path of another one is renamed. -/
structure DependencyGraph.Renamed (ρ : Text → Text) (g g' : DependencyGraph) : Prop where
  nodes : g'.nodes.entries = g.nodes.entries.map fun e => (ρ e.1, e.2.rename ρ)
  linkNodes : g'.links.nodes = g.links.nodes.map ρ
  linkEdges : g'.links.edges = g.links.edges.map (Edge.rename ρ)
  errors : g'.errors = g.errors

/-- A usage report in which every path of another one is renamed. -/
structure UsageReport.Renamed (ρ : Text → Text) (u u' : UsageReport) : Prop where
  ledgers : u'.ledgers.entries = u.ledgers.entries.map fun e => (ρ e.1, e.2.rename ρ)
  missing : u'.missing = u.missing.map (MissingExport.rename ρ)
  unused : u'.unused = u.unused.map (UnusedExport.rename ρ)

/-! ## Two renamings of one project -/

section

variable {f f' : Text ↪ Text} {ρ : Text → Text} (turns : ∀ path, ρ (f path) = f' path)

include turns

theorem map_map_of_turns (lists : List (List Text)) :
    lists.map (List.map f') = (lists.map (List.map f)).map (List.map ρ) := by
  simp [Function.comp_def, turns]

theorem DependencyGraph.renamed_of_turns {g g' : DependencyGraph} {nodes : NodeMap}
    {links : Digraph Text Link} (hnodes : g.nodes = nodes.rename f)
    (hnodes' : g'.nodes = nodes.rename f') (hlinks : g.links = links.rename f)
    (hlinks' : g'.links = links.rename f') (errors : g'.errors = g.errors) : g.Renamed ρ g' where
  nodes := by
    rw [hnodes, hnodes']
    simp only [NodeMap.entries_rename, List.map_map, Function.comp_def, turns,
      ModuleNode.rename_rename]
  linkNodes := by
    rw [hlinks, hlinks']
    simp [Function.comp_def, turns]
  linkEdges := by
    rw [hlinks, hlinks']
    simp [Function.comp_def, Edge.rename, turns]
  errors := errors

theorem UsageReport.renamed_of_turns (nodes : NodeMap) :
    (ofNodes (nodes.rename f)).Renamed ρ (ofNodes (nodes.rename f')) where
  ledgers := by
    simp only [entries_ledgers_rename, List.map_map, Function.comp_def, turns,
      Ledger.rename_rename]
  missing := by
    simp only [missing_rename, List.map_map, Function.comp_def, MissingExport.rename, turns]
    rfl
  unused := by
    simp only [unused_rename, List.map_map, Function.comp_def, UnusedExport.rename, turns]
    rfl

end

/-! ## The graph without a directory -/

namespace Resolver

def innerResolution (r : Resolver) : Resolution := fun specifier importer =>
  .ok (r.innerResolve specifier importer)

/-- What is found among relative paths is not empty: the empty one is the directory. -/
theorem given_innerResolve (r : Resolver) (specifier importer : Text) :
    given (r.innerResolve specifier importer) = r.innerResolve specifier importer := by
  cases found : r.innerResolve specifier importer with
  | none => rfl
  | some path =>
    refine given_eq_some_iff.2 ⟨rfl, ?_⟩
    unfold innerResolve at found
    split at found
    · have tried := List.mem_of_find?_eq_some found
      unfold innerCandidates at tried
      dsimp only at tried
      split at tried
      · exact ne_nil_of_mem_indexProbes tried
      · rename_i named
        have proper : innerTarget specifier importer ≠ [] := fun empty => by simp [empty] at named
        exact (List.mem_append.1 tried).elim (ne_nil_of_mem_fileProbes proper)
          ne_nil_of_mem_indexProbes
    · cases found

theorem standsIn_ofPaths (directory : Text) (modules : ModuleMap) (root : Option Text)
    (extensions dataExtensions : List Text) :
    StandsIn directory (ofPaths modules.keys none extensions dataExtensions)
      (ofPaths (modules.under directory).keys root extensions dataExtensions) where
  paths := modules.keys_rename _
  extensions := rfl
  dataExtensions := rfl

/-- The imports of a project resolve in every directory as they do without one. -/
theorem renames_under {directory : Text} {inner r : Resolver} {modules : ModuleMap}
    (below : Path.BelowRoot directory) (stands : StandsIn directory inner r)
    (conventional : ConventionalExtensions inner.extensions inner.dataExtensions)
    (relative : ∀ path ∈ modules.keys, Path.isAbsolute path = false)
    (inside : ∀ e ∈ modules.entries, ∀ s ∈ e.2.imports,
      isRelativeSpecifier s.source = true → staysInside s.source e.1 = true) :
    Resolution.Renames (Path.underEmbedding directory) modules inner.innerResolution
      r.resolution := by
  intro e he s hs _
  have path : Path.isAbsolute e.1 = false := relative e.1 (List.mem_map_of_mem he)
  have found := resolve_under below stands conventional path (inside e he s hs)
  rw [← given_resolve, ← given_innerResolve] at found
  exact congrArg Except.ok found

end Resolver

namespace DependencyGraph

theorem errors_build_resolution (modules : ModuleMap) (r : Resolver) :
    (build modules r.resolution {}).errors = [] := by
  rw [build_eq]
  simp [Resolver.errorOf_resolution]

/-- Where a project stands does not matter for its graph. In two directories below
the root, with imports that never climb above the directory, every import leads to
the moved target of the other or nowhere in both; the graph, its cycles, its
components and the usage of exports are the same but for the directory. -/
theorem build_of_relocated {directory directory' : Text} (below : Path.BelowRoot directory)
    (below' : Path.BelowRoot directory') {extensions dataExtensions : List Text}
    (conventional : ConventionalExtensions extensions dataExtensions) {modules : ModuleMap}
    (relative : ∀ path ∈ modules.keys, Path.isAbsolute path = false)
    (inside : ∀ e ∈ modules.entries, ∀ s ∈ e.2.imports,
      isRelativeSpecifier s.source = true → Resolver.staysInside s.source e.1 = true)
    (root root' : Option Text) :
    let r := Resolver.ofPaths (modules.under directory).keys root extensions dataExtensions
    let r' := Resolver.ofPaths (modules.under directory').keys root' extensions dataExtensions
    let g := build (modules.under directory) r.resolution {}
    let g' := build (modules.under directory') r'.resolution {}
    let ρ := Path.moved directory directory'
    (modules.under directory').entries =
        (modules.under directory).entries.map (fun e => (ρ e.1, e.2)) ∧
      (∀ e ∈ (modules.under directory).entries, ∀ s ∈ e.2.imports,
        r'.resolve s.source (ρ e.1) = (r.resolve s.source e.1).map ρ) ∧
      g.Renamed ρ g' ∧
      g'.links.cycles = g.links.cycles.map (List.map ρ) ∧
      g'.links.cyclicComponents = g.links.cyclicComponents.map (List.map ρ) ∧
      (UsageReport.ofNodes g.nodes).Renamed ρ (UsageReport.ofNodes g'.nodes) := by
  intro r r' g g' ρ
  have turns (path : Text) :
      ρ (Path.underEmbedding directory path) = Path.underEmbedding directory' path :=
    Path.moved_under directory directory' path
  have keeps := Path.keepsOrder_under directory
  have keeps' := Path.keepsOrder_under directory'
  -- Both graphs are renamings of the graph of relative paths.
  have stands := Resolver.standsIn_ofPaths directory modules root extensions dataExtensions
  have stands' := Resolver.standsIn_ofPaths directory' modules root' extensions dataExtensions
  have renames := Resolver.renames_under below stands conventional relative inside
  have renames' := Resolver.renames_under below' stands' conventional relative inside
  have nodes : g.nodes = _ := nodes_build_rename renames
  have nodes' : g'.nodes = _ := nodes_build_rename renames'
  have links : g.links = _ := links_build_rename renames
  have links' : g'.links = _ := links_build_rename renames'
  refine ⟨?_, ?_, ?_, ?_, ?_, ?_⟩
  · simp only [ModuleMap.under, Table.entries_rename, List.map_map, Function.comp_def, turns]
  · intro moved listed s hs
    obtain ⟨e, he, rfl⟩ := List.mem_map.1 listed
    have path : Path.isAbsolute e.1 = false := relative e.1 (List.mem_map_of_mem he)
    exact Resolver.resolve_moved below below' stands stands' conventional path (inside e he s hs)
  · apply renamed_of_turns turns nodes nodes' links links'
    rw [errors_build_resolution, errors_build_resolution]
  · rw [links, links', Digraph.cycles_rename keeps', Digraph.cycles_rename keeps]
    exact map_map_of_turns turns _
  · rw [links, links', Digraph.cyclicComponents_rename keeps',
      Digraph.cyclicComponents_rename keeps]
    exact map_map_of_turns turns _
  · rw [nodes, nodes']
    exact UsageReport.renamed_of_turns turns _

/-- Two modules that import each other, one of them by the directory that the
project stands in. -/
def homingModules : ModuleMap :=
  let facts (sources : List String) : ModuleFacts :=
    { fileType := .code
      exports := []
      imports := sources.map fun source =>
        { source, line := none, bindings := [], form := "import" } }
  .ofList [("index.js", facts ["./lib/a", "react"]), ("lib/a.js", facts ["../.", "../gone"])]

/-- The project is found also in a directory that is named like a source file. -/
theorem build_of_relocated_named_like_a_file :
    let modules := homingModules
    let r := Resolver.ofPaths (modules.under "/srv/app.js").keys none defaultExtensions
      defaultDataExtensions
    let r' := Resolver.ofPaths (modules.under "//home/me").keys none defaultExtensions
      defaultDataExtensions
    let g := build (modules.under "/srv/app.js") r.resolution {}
    let g' := build (modules.under "//home/me") r'.resolution {}
    Path.BelowRoot "/srv/app.js" ∧ Path.BelowRoot "//home/me" ∧
      ConventionalExtensions defaultExtensions defaultDataExtensions ∧
      (∀ path ∈ modules.keys, Path.isAbsolute path = false) ∧
      (∀ e ∈ modules.entries, ∀ s ∈ e.2.imports,
        isRelativeSpecifier s.source = true → Resolver.staysInside s.source e.1 = true) ∧
      g.links.cycles = [List.map Text.ofString
        ["/srv/app.js/index.js", "/srv/app.js/lib/a.js", "/srv/app.js/index.js"]] ∧
      g'.links.cycles = [List.map Text.ofString
        ["//home/me/index.js", "//home/me/lib/a.js", "//home/me/index.js"]] := by
  intro modules r r' g g'
  have below : Path.BelowRoot "/srv/app.js" := by decide
  have below' : Path.BelowRoot "//home/me" := by decide
  have conventional : ConventionalExtensions defaultExtensions defaultDataExtensions := by decide
  have relative : ∀ path ∈ modules.keys, Path.isAbsolute path = false := by decide
  have inside : ∀ e ∈ modules.entries, ∀ s ∈ e.2.imports,
      isRelativeSpecifier s.source = true → Resolver.staysInside s.source e.1 = true := by
    decide +kernel
  obtain ⟨-, -, -, cycles, -⟩ :=
    build_of_relocated below below' conventional relative inside none none
  have found : g.links.cycles = [List.map Text.ofString
      ["/srv/app.js/index.js", "/srv/app.js/lib/a.js", "/srv/app.js/index.js"]] := by
    decide +kernel
  refine ⟨below, below', conventional, relative, inside, found, ?_⟩
  rw [cycles, found]
  decide

end DependencyGraph

/-- What is seen of a directory: a code extension that goes on after a slash turns
its name into that of a module, and two slashes in front of the root are lost. -/
theorem Resolver.resolve_depends_on_directory :
    let r (extensions : List Text) (directory : Text) := ofPaths
      [Path.under directory "a.js", Path.under directory "d/b.js"] none extensions
      defaultDataExtensions
    let slashed : List Text := [Text.ofString ".js", Text.ofString ".js/a.js"]
    (∀ e ∈ slashed ++ defaultDataExtensions, e.head? = some Path.dot) ∧
      Path.BelowRoot "/w.js" ∧ Path.BelowRoot "/w" ∧
      staysInside "../." "d/b.js" = true ∧
      (r slashed "/w.js").resolve "../." "/w.js/d/b.js" = some (Text.ofString "/w.js/a.js") ∧
      (r slashed "/w").resolve "../." "/w/d/b.js" = none ∧
      Path.isAbsolute "//" = true ∧ Path.normalize "//" = Text.ofString "//" ∧
      Text.ofString "//" ≠ Text.ofString "/" ∧
      staysInside "../a" "d/b.js" = true ∧
      (r defaultExtensions "/w").resolve "../a" "/w/d/b.js" = some (Text.ofString "/w/a.js") ∧
      (r defaultExtensions "//").resolve "../a" "///d/b.js" = none := by
  decide +kernel

end ModuleAudit
