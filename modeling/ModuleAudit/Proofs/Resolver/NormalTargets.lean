import ModuleAudit.Proofs.DependencyGraph.Mirror
import ModuleAudit.Proofs.Path.Extension
import ModuleAudit.Proofs.Record.Acceptance

/-!
# Imports lead to normal paths

A specifier is followed to a normal path, and every candidate differs from that path in
its last name only: an extension is added or exchanged, or an index file is looked for
below. So each candidate is normal, whatever the specifier climbs through on the way.

A module may still be listed under a path that is not normal. No candidate is that path,
so no import leads to the module. One build enters no import there, hence no number of
builds does.
-/

namespace ModuleAudit

namespace Resolver

variable {r : Resolver}

theorem normal_target {importer : Text} (absolute : Path.isAbsolute importer = true)
    (specifier : Text) : Path.Normal (target specifier importer) :=
  Path.normal_normalize (Path.isAbsolute_join (Path.isAbsolute_parent absolute) specifier)

section Candidates

variable (plain : ∀ e ∈ r.knownExtensions, Path.IsExtension e) {path candidate : Text}

include plain

theorem normal_of_mem_indexProbes (normal : Path.Normal path)
    (probed : candidate ∈ r.indexProbes path) : Path.Normal candidate := by
  obtain ⟨e, known, rfl⟩ := List.mem_map.1 probed
  have index : Path.slash ∉ Text.ofString "index" := by decide
  exact normal.join ((plain e known).isName_append index)

theorem normal_of_mem_fileProbes (normal : Path.Normal path)
    (probed : candidate ∈ r.fileProbes path) : Path.Normal candidate := by
  simp only [fileProbes] at probed
  split at probed
  · rename_i code
    have nonempty : Path.extension path ≠ [] := (plain _ (List.mem_append_left _ code)).ne_nil
    rw [if_neg (by simpa using nonempty)] at probed
    rcases List.mem_cons.1 probed with rfl | probed
    · exact normal
    · obtain ⟨other, listed, rfl⟩ := List.mem_map.1 probed
      have known := plain other (List.mem_append_left _ (List.mem_filter.1 listed).1)
      exact normal.exchange nonempty known.slash_not_mem
  · split at probed
    · exact List.mem_singleton.1 probed ▸ normal
    · rcases List.mem_cons.1 probed with rfl | probed
      · exact normal
      · obtain ⟨e, known, rfl⟩ := List.mem_map.1 probed
        exact normal.append (plain e known)

/-- Whatever a specifier is resolved to is normal. -/
theorem normal_of_resolve {specifier importer : Text}
    (absolute : Path.isAbsolute importer = true)
    (found : r.resolve specifier importer = some path) : Path.Normal path := by
  unfold resolve at found
  split at found
  · have normal := normal_target absolute specifier
    have probed := List.mem_of_find?_eq_some found
    unfold candidates at probed
    dsimp only at probed
    split at probed
    · exact normal_of_mem_indexProbes plain normal probed
    · rcases List.mem_append.1 probed with file | index
      · exact normal_of_mem_fileProbes plain normal file
      · exact normal_of_mem_indexProbes plain normal index
  · cases found

end Candidates

end Resolver

namespace DependencyGraph

/-- No import in a graph leads to a path, in any of its views. -/
structure Avoids (g : DependencyGraph) (path : Text) : Prop where
  importers : ∀ node, g.nodes.get? path = some node → node.importedBy = []
  imports : ∀ importer node, g.nodes.get? importer = some node → ∀ i ∈ node.imports, i.target ≠ path
  links : ∀ importer, g.links.hasEdge importer path = false

/-- A link is there after a build if it was there before or some import is behind it. -/
theorem hasEdge_links_build_iff (modules : ModuleMap) (resolve : Resolution)
    (before : DependencyGraph) (a b : Text) :
    (build modules resolve before).links.hasEdge a b = true ↔
      before.links.hasEdge a b = true ∨ between a b (linkedImports modules resolve) ≠ [] := by
  rw [Digraph.hasEdge_iff_label?, Digraph.hasEdge_iff_label?, links_build, label?_foldl_enterLink,
    Digraph.label?_foldl_addNode]
  cases before.links.label? a b with
  | some link => simp
  | none => simp [List.isSome_head?]

/-- A build enters no import on a path that no import leads to. -/
theorem Avoids.build {modules : ModuleMap} {resolve : Resolution} {path : Text}
    (elsewhere : ∀ e ∈ internalImports (plainNodes modules resolve), e.2.target ≠ path)
    {before : DependencyGraph} (avoids : before.Avoids path) :
    (build modules resolve before).Avoids path where
  importers node hnode := by
    rw [importedBy_of_get?_build modules resolve before hnode, internalImports_build,
      List.map_eq_nil_iff, List.filter_eq_nil_iff]
    exact fun e he => by simpa using elsewhere e he
  imports importer node hnode i hi := by
    refine elsewhere (importer, i) ?_
    rw [← internalImports_build modules resolve before, internalImports, List.mem_flatMap]
    exact ⟨(importer, node), (Table.mem_entries_iff _ _).2 hnode, List.mem_map_of_mem hi⟩
  links importer := by
    rw [Bool.eq_false_iff, ne_eq, hasEdge_links_build_iff, avoids.links importer, not_or, not_not,
      between, List.filter_eq_nil_iff]
    refine ⟨Bool.false_ne_true, fun e he => ?_⟩
    have other := elsewhere e (mem_known_iff.1 he).1
    simp [other]

theorem avoids_empty (path : Text) : Avoids {} path where
  importers _ hnode := by cases hnode
  imports _ _ hnode := by cases hnode
  links _ := rfl

theorem avoids_iterate {modules : ModuleMap} {resolve : Resolution} {path : Text}
    (elsewhere : ∀ e ∈ internalImports (plainNodes modules resolve), e.2.target ≠ path) (k : Nat) :
    ((build modules resolve)^[k] {}).Avoids path := by
  induction k with
  | zero => exact avoids_empty path
  | succ k ih =>
    rw [Function.iterate_succ_apply']
    exact ih.build elsewhere

/-- The internal imports of absolute modules lead to normal paths. -/
theorem normal_of_mem_internalImports {r : Resolver}
    (plain : ∀ e ∈ r.knownExtensions, Path.IsExtension e) {modules : ModuleMap}
    (absolute : ∀ path ∈ modules.keys, Path.isAbsolute path = true) {e : Text × InternalImport}
    (he : e ∈ internalImports (plainNodes modules r.resolution)) : Path.Normal e.2.target := by
  have importer : e.1 ∈ modules.keys := by
    rw [← keys_plainNodes modules r.resolution]
    exact fst_mem_keys_of_mem_internalImports he
  obtain ⟨entry, hentry, listed⟩ := List.mem_flatMap.1 he
  obtain ⟨i, hi, rfl⟩ := List.mem_map.1 listed
  obtain ⟨facts, -, rfl⟩ := List.mem_map.1 hentry
  have found := ModuleNode.resolve_of_mem_imports hi
  exact Resolver.normal_of_resolve plain (absolute _ importer) (Except.ok.inj found)

/-- Imports lead to normal paths only. Whatever a resolver finds from an absolute importer
is absolute and its own normal form. A module under an absolute path in another form is
accepted as well, but in the graphs of absolute modules no import ever leads to it: it has
no importers and is the target of no import and of no link. -/
theorem build_avoids_unnormalized {r : Resolver}
    (plain : ∀ e ∈ r.extensions ++ r.dataExtensions, Path.IsExtension e) :
    (∀ specifier importer path, Path.isAbsolute importer = true →
        r.resolve specifier importer = some path →
        Path.isAbsolute path = true ∧ Path.normalize path = path) ∧
      ∀ path, Path.isAbsolute path = true → Path.normalize path ≠ path →
        (∀ limits, Record.readIdentity limits (.str path) = .ok path) ∧
          ∀ (modules : ModuleMap) (k : Nat),
            (∀ other ∈ modules.keys, Path.isAbsolute other = true) →
            ((build modules r.resolution)^[k] {}).Avoids path := by
  refine ⟨fun specifier importer path absolute found => ?_, fun path absolute unnormalized => ⟨?_,
    fun modules k absolute => avoids_iterate (fun e he same => ?_) k⟩⟩
  · have normal := Resolver.normal_of_resolve plain absolute found
    exact ⟨normal.absolute, normal.normal⟩
  · exact fun _ => Record.readIdentity_eq_ok_iff.2 ⟨rfl, absolute⟩
  · have normal := normal_of_mem_internalImports plain absolute he
    exact unnormalized (same ▸ normal.normal)

/-- Two modules that import each other, one of them under a path with a `.` in it. -/
def detouredModules : ModuleMap :=
  let importing (source : Text) : ModuleFacts :=
    { fileType := .code, exports := [], imports :=
        [{ source, line := none, bindings := [], form := "import" }] }
  .ofList [("/p/./util.js", importing "./../../..//p/main"),
    ("/p/main.js", importing "././util.js")]

theorem build_avoids_unnormalized_detoured :
    let r := Resolver.ofPaths detouredModules.keys none defaultExtensions defaultDataExtensions
    let g := (build detouredModules r.resolution)^[2] {}
    r.resolve "./../../..//p/main" "/p/./util.js" = some "/p/main.js" ∧
      Path.normalize "/p/main.js" = "/p/main.js" ∧
      Path.normalize "/p/./util.js" ≠ "/p/./util.js" ∧
      (g.nodes.get? "/p/./util.js").isSome ∧
      g.links.hasEdge "/p/./util.js" "/p/main.js" = true ∧
      g.Avoids "/p/./util.js" := by
  intro r g
  have plain : ∀ e ∈ r.extensions ++ r.dataExtensions, Path.IsExtension e := by decide
  have found : r.resolve "./../../..//p/main" "/p/./util.js" = some "/p/main.js" := by decide
  have unnormalized : Path.normalize "/p/./util.js" ≠ "/p/./util.js" := by decide
  obtain ⟨normal, avoids⟩ := build_avoids_unnormalized plain
  exact ⟨found, (normal _ _ _ (by decide) found).2, unnormalized, by decide, by decide,
    (avoids _ (by decide) unnormalized).2 detouredModules 2 (by decide)⟩

end DependencyGraph

end ModuleAudit
