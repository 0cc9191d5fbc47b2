import ModuleAudit.Proofs.DependencyGraph.Mirror

/-!
# A failing module is isolated

Only the resolution of a relative specifier can fail, and the first failure takes
all imports of its module with it. The module still has a node that others can
import. Since a node's own imports are placed before any importer is entered, no
node depends on the imports of another module, and a failing module is the
importer of none.
-/

namespace ModuleAudit

namespace Resolution

/-- The reason why an import fails. Only a relative one is resolved. -/
def failure? (resolve : Resolution) (importer : Text) (s : ImportStatement) : Option Text :=
  if isRelativeSpecifier s.source then reason? (resolve s.source importer) else none

/-- The reason of the first import of a module that fails. -/
def firstFailure? (resolve : Resolution) (e : Text × ModuleFacts) : Option Text :=
  e.2.imports.findSome? (resolve.failure? e.1)

variable (resolve : Resolution)

theorem reason?_placeImport (importer : Text) (s : ImportStatement) :
    reason? (placeImport resolve importer s) = resolve.failure? importer s := by
  rw [placeImport_eq, failure?]
  split
  · cases resolve s.source importer <;> rfl
  · rfl

/-- A module fails exactly if resolving one of its relative imports does. -/
theorem firstFailure?_ne_none_iff (e : Text × ModuleFacts) :
    resolve.firstFailure? e ≠ none ↔ ∃ s ∈ e.2.imports,
      isRelativeSpecifier s.source = true ∧ ∃ reason, resolve s.source e.1 = .error reason := by
  rw [← Option.isSome_iff_ne_none, firstFailure?, List.findSome?_isSome_iff]
  refine exists_congr fun s => and_congr_right fun _ => ?_
  rw [failure?, Option.isSome_iff_exists]
  by_cases relative : isRelativeSpecifier s.source = true
  · simp only [relative, if_true, true_and, reason?_eq_some_iff]
  · simp only [relative, if_false, false_and, reduceCtorEq, exists_false]

theorem reason?_build (path : Text) (facts : ModuleFacts) :
    reason? (ModuleNode.build resolve path facts) = resolve.firstFailure? (path, facts) := by
  have first : reason? (facts.imports.mapM (placeImport resolve path)) =
      resolve.firstFailure? (path, facts) := by
    rw [reason?_mapM, firstFailure?]
    exact congrArg (facts.imports.findSome? ·) (funext (reason?_placeImport resolve path))
  rw [← first, ModuleNode.build]
  cases facts.imports.mapM (placeImport resolve path) <;> rfl

/-- The placements of the imports of a module that does not fail, one for each. -/
def Places (path : Text) (imports : List ImportStatement) (placements : List Placement) : Prop :=
  List.Forall₂ (fun s p => placeImport resolve path s = .ok p) imports placements

end Resolution

namespace ModuleNode

variable {resolve : Resolution} {path : Text} {facts : ModuleFacts}

theorem buildOrBare_of_failure (failed : resolve.firstFailure? (path, facts) ≠ none) :
    buildOrBare resolve path facts = ofFacts facts := by
  obtain ⟨reason, failed⟩ := Option.ne_none_iff_exists'.1 failed
  rw [← resolve.reason?_build, reason?_eq_some_iff] at failed
  rw [buildOrBare, failed]

theorem exists_placements (sound : resolve.firstFailure? (path, facts) = none) :
    ∃ placements, resolve.Places path facts.imports placements ∧
      buildOrBare resolve path facts = ofPlacements facts placements := by
  rw [← resolve.reason?_build, reason?_eq_none_iff] at sound
  obtain ⟨node, built⟩ := sound
  obtain ⟨placements, placed, node_eq⟩ := ok_steps_of_bind built
  refine ⟨placements, mapM_eq_ok_iff.1 placed, ?_⟩
  rw [buildOrBare, built]
  exact (Except.ok.inj node_eq).symm

theorem fileType_buildOrBare (resolve : Resolution) (path : Text) (facts : ModuleFacts) :
    (buildOrBare resolve path facts).fileType = facts.fileType := by
  obtain ⟨placements, -, built⟩ | bare := buildOrBare_cases resolve path facts
  · rw [built]; rfl
  · rw [bare]; rfl

theorem exports_buildOrBare (resolve : Resolution) (path : Text) (facts : ModuleFacts) :
    (buildOrBare resolve path facts).exports = facts.exports := by
  obtain ⟨placements, -, built⟩ | bare := buildOrBare_cases resolve path facts
  · rw [built]; rfl
  · rw [bare]; rfl

/-- A placement that leads to a module is that of its own statement. -/
theorem statement_of_placeImport {s : ImportStatement} {i : InternalImport}
    (placed : placeImport resolve path s = .ok (.internal i)) : i.statement = s := by
  rw [placeImport_eq] at placed
  split at placed
  · cases found : (resolve s.source path).map given with
    | error reason =>
      rw [found] at placed
      cases placed
    | ok target =>
      rw [found] at placed
      cases target <;> cases placed
      rfl
  · cases placed

/-- The placed imports that lead to one module are those of the statements that are
placed there. -/
theorem filter_internal_placements {imports : List ImportStatement} {placements : List Placement}
    (placed : resolve.Places path imports placements) (target : Text) :
    (placements.filterMap Placement.internal?).filter (fun i => i.target = target) =
      (imports.filter fun s =>
        placeImport resolve path s = .ok (.internal { statement := s, target })).map
        fun s => { statement := s, target } := by
  induction placed with
  | nil => rfl
  | @cons s p imports placements first _ ih =>
    rw [List.filter_cons, first]
    cases p with
    | internal i =>
      obtain rfl := statement_of_placeImport first
      by_cases same : i.target = target
      · subst same
        simp [Placement.internal?, ih]
      · have other : i ≠ { statement := i.statement, target } := fun h =>
          same (congrArg InternalImport.target h)
        simp [Placement.internal?, ih, same, other]
    | external i =>
      rw [List.filterMap_cons_none rfl]
      simpa using ih
    | unresolved s' =>
      rw [List.filterMap_cons_none rfl]
      simpa using ih

/-- The imports of a module that lead to another: none if the module fails. -/
theorem filter_imports_buildOrBare (resolve : Resolution) (path : Text) (facts : ModuleFacts)
    (target : Text) :
    (buildOrBare resolve path facts).imports.filter (fun i => i.target = target) =
      if resolve.firstFailure? (path, facts) = none then
        (facts.imports.filter fun s =>
          placeImport resolve path s = .ok (.internal { statement := s, target })).map
          fun s => { statement := s, target }
      else [] := by
  split
  · rename_i sound
    obtain ⟨placements, placed, built⟩ := exists_placements sound
    rw [built]
    exact filter_internal_placements placed target
  · rename_i failed
    rw [buildOrBare_of_failure failed]
    rfl

end ModuleNode

namespace DependencyGraph

section Build

variable (modules : ModuleMap) (resolve : Resolution) (before : DependencyGraph)

theorem errorOf_eq (e : Text × ModuleFacts) :
    errorOf resolve e = (resolve.firstFailure? e).map fun reason =>
      { module := e.1, message := "import processing failed: " ++ reason } := by
  rw [← resolve.reason?_build e.1 e.2, errorOf]
  cases ModuleNode.build resolve e.1 e.2 <;> rfl

/-- The node that a build makes for a module depends on other modules only in its
importers. -/
theorem exists_get?_build {path : Text} {facts : ModuleFacts}
    (hfacts : modules.get? path = some facts) :
    ∃ importers, (build modules resolve before).nodes.get? path =
      some { ModuleNode.buildOrBare resolve path facts with importedBy := importers } := by
  rw [build_eq, withImporters, plainNodes, Table.get?_map, Table.get?_map, hfacts]
  exact ⟨_, rfl⟩

/-- The importers of a module are the modules that do not fail. -/
theorem importedBy_build {path : Text} {node : ModuleNode}
    (hnode : (build modules resolve before).nodes.get? path = some node) :
    node.importedBy =
      (modules.entries.filter fun e => resolve.firstFailure? e = none).flatMap fun e =>
        (e.2.imports.filter fun s =>
          placeImport resolve e.1 s = .ok (.internal { statement := s, target := path })).map
          fun s => { module := e.1, line := s.line, form := s.form } := by
  rw [importedBy_of_get?_build modules resolve before hnode, internalImports_build,
    internalImports, plainNodes, Table.entries_map, List.flatMap_map, List.filter_flatMap,
    List.map_flatMap, flatMap_filter_eq]
  refine List.flatMap_congr fun e _ => ?_
  have into := ModuleNode.filter_imports_buildOrBare resolve e.1 e.2 path
  rw [List.filter_map, List.map_map]
  simp only [Function.comp_def, decide_eq_true_eq] at into ⊢
  rw [into]
  split <;> simp [importerOf]

end Build

/-- A failing module is isolated. A module fails if resolving one of its relative
imports does; there is one error for each, in the order of the modules, with the
reason of its first failure. Every module keeps its file type and its exports. One
that fails has no imports of any kind, and the lists of any other hold the placement
of each of its imports, as they do in a graph of this module alone. The importers of
a module are all statements of modules that do not fail whose placement is there. -/
theorem build_isolates_failures (modules : ModuleMap) (resolve : Resolution)
    (before : DependencyGraph) :
    (build modules resolve before).nodes.keys = modules.keys ∧
      (∀ e, resolve.firstFailure? e ≠ none ↔ ∃ s ∈ e.2.imports,
        isRelativeSpecifier s.source = true ∧ ∃ reason, resolve s.source e.1 = .error reason) ∧
      (build modules resolve before).errors =
        before.errors ++ modules.entries.filterMap (fun e =>
          (resolve.firstFailure? e).map fun reason =>
            { module := e.1, message := "import processing failed: " ++ reason }) ∧
      ∀ path facts, modules.get? path = some facts →
        ∃ node, (build modules resolve before).nodes.get? path = some node ∧
          (node.fileType = facts.fileType ∧ node.exports = facts.exports) ∧
          (resolve.firstFailure? (path, facts) ≠ none →
            node.imports = [] ∧ node.external = [] ∧ node.unresolved = []) ∧
          (resolve.firstFailure? (path, facts) = none →
            (∃ placements, List.Forall₂ (fun s p => placeImport resolve path s = .ok p)
                facts.imports placements ∧
              node.imports = placements.filterMap Placement.internal? ∧
              node.external = placements.filterMap Placement.external? ∧
              node.unresolved = placements.filterMap Placement.unresolved?) ∧
            ∃ alone, (build (.ofList [(path, facts)]) resolve {}).nodes.get? path = some alone ∧
              node.imports = alone.imports ∧ node.external = alone.external ∧
              node.unresolved = alone.unresolved) ∧
          node.importedBy =
            (modules.entries.filter fun e => resolve.firstFailure? e = none).flatMap fun e =>
              (e.2.imports.filter fun s => placeImport resolve e.1 s =
                .ok (.internal { statement := s, target := path })).map
                fun s => { module := e.1, line := s.line, form := s.form } := by
  have errors : (build modules resolve before).errors =
      before.errors ++ modules.entries.filterMap (errorOf resolve) := by
    rw [build_eq]
  refine ⟨keys_build modules resolve before, resolve.firstFailure?_ne_none_iff, ?_, ?_⟩
  · rw [errors]
    exact congrArg (fun f => before.errors ++ modules.entries.filterMap f)
      (funext (errorOf_eq resolve))
  · intro path facts hfacts
    obtain ⟨importers, hnode⟩ := exists_get?_build modules resolve before hfacts
    refine ⟨_, hnode, ?_, ?_, ?_, importedBy_build modules resolve before hnode⟩
    · exact ⟨ModuleNode.fileType_buildOrBare resolve path facts,
        ModuleNode.exports_buildOrBare resolve path facts⟩
    · intro failed
      rw [ModuleNode.buildOrBare_of_failure failed]
      exact ⟨rfl, rfl, rfl⟩
    · intro sound
      obtain ⟨placements, placed, built⟩ := ModuleNode.exists_placements sound
      have single : (Table.ofList [(path, facts)]).entries = [(path, facts)] :=
        Table.entries_ofList (List.nodup_singleton path)
      have own : (Table.ofList [(path, facts)]).get? path = some facts :=
        Table.get?_of_mem_entries (single ▸ List.mem_singleton_self (path, facts))
      obtain ⟨others, halone⟩ := exists_get?_build _ resolve {} own
      rw [built] at halone ⊢
      exact ⟨⟨placements, placed, rfl, rfl, rfl⟩, _, halone, rfl, rfl, rfl⟩

/-- The second module fails at its last import, and both others import it. The third
also imports what leads nowhere and what leads out. -/
def brokenModules : ModuleMap :=
  let statement (source : Text) (line : Int) : ImportStatement :=
    { source, line := some line, bindings := [], form := "import" }
  .ofList
    [("a.js", { fileType := .code, exports := [], imports := [statement "./b" 1] }),
      ("b.js", { fileType := .code, exports := [⟨"run", .named, some 9, none⟩], imports :=
        [statement "./a" 1, statement "react" 2, statement "./z" 3] }),
      ("c.js", { fileType := .code, exports := [], imports :=
        [statement "./b" 4, statement "./y" 5, statement "fs" 6, statement "./a" 7] })]

/-- A resolution that knows two modules and fails for `./z`. -/
def brokenResolution : Resolution := fun specifier _ =>
  if specifier = "./z" then .error "no such disk"
  else if specifier = "./a" then .ok (some "a.js")
  else if specifier = "./b" then .ok (some "b.js")
  else .ok none

theorem build_isolates_failures_midway :
    let g := build brokenModules brokenResolution {}
    g.errors = [⟨"b.js", "import processing failed: no such disk"⟩] ∧
      (∃ b, g.nodes.get? "b.js" = some b ∧ b.exports = [⟨"run", .named, some 9, none⟩] ∧
        (b.imports = [] ∧ b.external = [] ∧ b.unresolved = []) ∧
        b.importedBy = [⟨"a.js", some 1, "import"⟩, ⟨"c.js", some 4, "import"⟩]) ∧
      (∃ a, g.nodes.get? "a.js" = some a ∧ a.importedBy = [⟨"c.js", some 7, "import"⟩]) ∧
      ∃ c, g.nodes.get? "c.js" = some c ∧ c.unresolved.map ImportStatement.source = ["./y"] := by
  intro g
  obtain ⟨-, -, errors, nodes⟩ := build_isolates_failures brokenModules brokenResolution {}
  obtain ⟨a, ha, -, -, -, importers⟩ := nodes "a.js" _ rfl
  obtain ⟨b, hb, ⟨-, exports⟩, failed, -, importers'⟩ := nodes "b.js" _ rfl
  obtain ⟨c, hc, -, -, sound, -⟩ := nodes "c.js" _ rfl
  obtain ⟨-, alone, halone, -, -, unresolved⟩ := sound (by decide +kernel)
  refine ⟨errors.trans (by decide +kernel), ⟨b, hb, exports, failed (by decide +kernel), ?_⟩,
    ⟨a, ha, ?_⟩, c, hc, ?_⟩
  · exact importers'.trans (by decide +kernel)
  · exact importers.trans (by decide +kernel)
  · rw [unresolved]
    exact Option.some.inj ((congrArg (Option.map fun n : ModuleNode => n.unresolved.map
      ImportStatement.source) halone).symm.trans (by decide +kernel))

end DependencyGraph

end ModuleAudit
