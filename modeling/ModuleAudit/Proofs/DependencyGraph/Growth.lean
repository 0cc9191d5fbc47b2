import ModuleAudit.Proofs.DependencyGraph.Mirror

/-!
# One more module

Candidates are tried in an order that does not depend on the modules there are.
With one more module the search for a target therefore stops where it stopped
before, or earlier and then at the new module. Nothing that was found is lost,
and no import is led from one of the old modules to another.
-/

namespace ModuleAudit

/-- Where an import may lead after a module has been added: where it led before, or
to the new module if it is relative. -/
inductive Placement.Grows (new : Text) : Placement → Placement → Prop
  | same (placement : Placement) : Grows new placement placement
  | shadowed (i : InternalImport) : Grows new (.internal i) (.internal { i with target := new })
  | found (s : ImportStatement) :
      Grows new (.unresolved s) (.internal { statement := s, target := new })

theorem find?_of_one_more {α : Type} {known known' : α → Bool} {new : α}
    (grown : ∀ a, known' a = true ↔ a = new ∨ known a = true) (candidates : List α) :
    candidates.find? known' = candidates.find? known ∨ candidates.find? known' = some new := by
  induction candidates with
  | nil => exact .inl rfl
  | cons a candidates ih =>
    by_cases fresh : a = new
    · right
      rw [List.find?_cons_of_pos ((grown a).2 (.inl fresh)), fresh]
    · by_cases old : known a = true
      · left
        rw [List.find?_cons_of_pos ((grown a).2 (.inr old)), List.find?_cons_of_pos old]
      · have passed : ¬ known' a = true := fun h => ((grown a).1 h).elim fresh old
        rw [List.find?_cons_of_neg passed, List.find?_cons_of_neg old]
        exact ih

namespace Resolver

variable {paths paths' : List Text} {new : Text} (grown : paths'.Perm (new :: paths))
  (root root' : Option Text) (extensions dataExtensions : List Text)

include grown

/-- With one more path a specifier leads where it led before, or to the new path. -/
theorem resolve_of_one_more (specifier importer : Text) :
    let before := (ofPaths paths root extensions dataExtensions).resolve specifier importer
    let after := (ofPaths paths' root' extensions dataExtensions).resolve specifier importer
    after = before ∨ after = some new := by
  intro before after
  by_cases relative : isRelativeSpecifier specifier = true
  · simp only [before, after, resolve, relative, if_true]
    apply find?_of_one_more
    intro path
    show paths'.contains path = true ↔ path = new ∨ paths.contains path = true
    rw [List.contains_iff_mem, List.contains_iff_mem, grown.mem_iff, List.mem_cons]
  · left
    simp only [before, after, resolve, relative]
    rfl

theorem place_of_one_more (importer : Text) (s : ImportStatement) :
    ((ofPaths paths root extensions dataExtensions).place importer s).Grows new
      ((ofPaths paths' root' extensions dataExtensions).place importer s) := by
  have outcome := resolve_of_one_more grown root root' extensions dataExtensions s.source importer
  unfold place
  by_cases relative : isRelativeSpecifier s.source = true
  · rw [if_pos relative, if_pos relative]
    rcases outcome with same | captured
    · rw [same]
      exact .same _
    · rw [captured]
      cases (ofPaths paths root extensions dataExtensions).resolve s.source importer with
      | none => exact .found s
      | some target => exact .shadowed { statement := s, target }
  · rw [if_neg relative, if_neg relative]
    exact .same _

end Resolver

/-! ## Imports on a node by their placement -/

namespace Resolver

variable (r : Resolver) (path : Text) (facts : ModuleFacts)

theorem mem_imports_nodeOf_iff (i : InternalImport) :
    i ∈ (r.nodeOf path facts).imports ↔ ∃ s ∈ facts.imports, r.place path s = .internal i := by
  have internal (p : Placement) : p.internal? = some i ↔ p = .internal i := by
    cases p <;> simp [Placement.internal?]
  simp only [nodeOf, ModuleNode.ofPlacements, List.mem_filterMap, internal,
    exists_eq_right, List.mem_map]

theorem mem_unresolved_nodeOf_iff (s : ImportStatement) :
    s ∈ (r.nodeOf path facts).unresolved ↔
      ∃ s' ∈ facts.imports, r.place path s' = .unresolved s := by
  have unresolved (p : Placement) : p.unresolved? = some s ↔ p = .unresolved s := by
    cases p <;> simp [Placement.unresolved?]
  simp only [nodeOf, ModuleNode.ofPlacements, List.mem_filterMap, unresolved,
    exists_eq_right, List.mem_map]

end Resolver

namespace DependencyGraph

/-- The node that one build with a resolver gives a module. -/
theorem exists_get?_build_resolution (modules : ModuleMap) (r : Resolver) {path : Text}
    {facts : ModuleFacts} (known : modules.get? path = some facts) :
    ∃ importers, (build modules r.resolution {}).nodes.get? path =
      some { r.nodeOf path facts with importedBy := importers } := by
  rw [build_eq, plainNodes, Resolver.buildOrBare_resolution, withImporters, Table.get?_map,
    Table.get?_map, known]
  exact ⟨_, rfl⟩

/-- Adding a module never breaks a resolution. Take a module that was there before
and the same conventions for specifiers. Each of its imports leads where it led
before, or it is relative and now leads to the new module. So the imports that lead
out of the project are the same, an import with a target keeps it or has the new
module for its target, and what leads nowhere led nowhere before. -/
theorem build_keeps_resolutions {modules modules' : ModuleMap} {new : Text} {record : ModuleFacts}
    (grown : modules'.entries.Perm ((new, record) :: modules.entries))
    (root root' : Option Text) (extensions dataExtensions : List Text) :
    let r := Resolver.ofPaths modules.keys root extensions dataExtensions
    let r' := Resolver.ofPaths modules'.keys root' extensions dataExtensions
    let g := build modules r.resolution {}
    let g' := build modules' r'.resolution {}
    ∀ path facts, modules.get? path = some facts →
      ∃ node node', g.nodes.get? path = some node ∧ g'.nodes.get? path = some node' ∧
        node = { ModuleNode.ofPlacements facts (facts.imports.map (r.place path)) with
          importedBy := node.importedBy } ∧
        node' = { ModuleNode.ofPlacements facts (facts.imports.map (r'.place path)) with
          importedBy := node'.importedBy } ∧
        (∀ s ∈ facts.imports, (r.place path s).Grows new (r'.place path s)) ∧
        node'.external = node.external ∧
        (∀ i ∈ node.imports, i ∈ node'.imports ∨ { i with target := new } ∈ node'.imports) ∧
        (∀ i ∈ node'.imports, i.target = new ∨ i ∈ node.imports) ∧
        ∀ s ∈ node'.unresolved, s ∈ node.unresolved := by
  intro r r' g g' path facts known
  have keys : modules'.keys.Perm (new :: modules.keys) := grown.map Prod.fst
  have known' : modules'.get? path = some facts := by
    rw [← Table.mem_entries_iff modules' (path, facts), grown.mem_iff, List.mem_cons]
    exact .inr ((Table.mem_entries_iff modules (path, facts)).2 known)
  obtain ⟨importers, hnode⟩ := exists_get?_build_resolution modules r known
  obtain ⟨importers', hnode'⟩ := exists_get?_build_resolution modules' r' known'
  have grows (s : ImportStatement) : (r.place path s).Grows new (r'.place path s) :=
    Resolver.place_of_one_more keys root root' extensions dataExtensions path s
  refine ⟨_, _, hnode, hnode', rfl, rfl, fun s _ => grows s, ?_, ?_, ?_, ?_⟩
  · show (r'.nodeOf path facts).external = (r.nodeOf path facts).external
    rw [Resolver.external_nodeOf, Resolver.external_nodeOf]
  · intro i hi
    obtain ⟨s, hs, placed⟩ := (r.mem_imports_nodeOf_iff path facts i).1 hi
    have step := grows s
    rw [placed] at step
    generalize after : r'.place path s = placement at step
    cases step with
    | same => exact .inl ((r'.mem_imports_nodeOf_iff path facts i).2 ⟨s, hs, after⟩)
    | shadowed => exact .inr ((r'.mem_imports_nodeOf_iff path facts _).2 ⟨s, hs, after⟩)
  · intro i hi
    obtain ⟨s, hs, placed⟩ := (r'.mem_imports_nodeOf_iff path facts i).1 hi
    have step := grows s
    rw [placed] at step
    generalize before : r.place path s = placement at step
    cases step with
    | same => exact .inr ((r.mem_imports_nodeOf_iff path facts i).2 ⟨s, hs, before⟩)
    | shadowed => exact .inl rfl
    | found => exact .inl rfl
  · intro s hs
    obtain ⟨s', hs', placed⟩ := (r'.mem_unresolved_nodeOf_iff path facts s).1 hs
    have step := grows s'
    rw [placed] at step
    generalize before : r.place path s' = placement at step
    cases step with
    | same => exact (r.mem_unresolved_nodeOf_iff path facts s).2 ⟨s', hs', before⟩

/-- A module that imports one with and without its extension, one that is not
there, itself by the directory, and a package. -/
def growingModules : ModuleMap :=
  let statement (source : Text) : ImportStatement :=
    { source, line := none, bindings := [], form := "import" }
  .ofList
    [("/p/b.ts", { fileType := .code, exports := [], imports := [] }),
      ("/p/index.js", { fileType := .code, exports := [], imports :=
        ["./b", "./b.ts", "./c", "./", "react"].map statement })]

/-- A file with an extension that is tried earlier takes over what was imported
without one, and nothing else. -/
theorem build_keeps_resolutions_shadowed :
    let modules := growingModules
    let record : ModuleFacts := { fileType := .code, exports := [], imports := [] }
    let modules' := modules.insert "/p/b.js" record
    let r := Resolver.ofPaths modules.keys none defaultExtensions defaultDataExtensions
    let r' := Resolver.ofPaths modules'.keys none defaultExtensions defaultDataExtensions
    modules'.entries.Perm (("/p/b.js", record) :: modules.entries) ∧
      ∃ node node', (build modules r.resolution {}).nodes.get? "/p/index.js" = some node ∧
        (build modules' r'.resolution {}).nodes.get? "/p/index.js" = some node' ∧
        node'.external = node.external ∧
        node.imports.map InternalImport.target =
          [Text.ofString "/p/b.ts", Text.ofString "/p/b.ts", Text.ofString "/p/index.js"] ∧
        node'.imports.map InternalImport.target =
          [Text.ofString "/p/b.js", Text.ofString "/p/b.ts", Text.ofString "/p/index.js"] ∧
        (∀ i ∈ node.imports, i ∈ node'.imports ∨
          { i with target := Text.ofString "/p/b.js" } ∈ node'.imports) ∧
        ∀ s ∈ node'.unresolved, s ∈ node.unresolved := by
  intro modules record modules' r r'
  have grown : modules'.entries.Perm (("/p/b.js", record) :: modules.entries) := by decide
  obtain ⟨facts, known⟩ : ∃ facts, modules.get? "/p/index.js" = some facts :=
    Option.isSome_iff_exists.1 (by decide)
  obtain ⟨node, node', hnode, hnode', -, -, -, external, kept, -, unresolved⟩ :=
    build_keeps_resolutions grown none none defaultExtensions defaultDataExtensions
      "/p/index.js" facts known
  have before : ((build modules r.resolution {}).nodes.get? "/p/index.js").map
      (fun n => n.imports.map InternalImport.target) =
        some [Text.ofString "/p/b.ts", Text.ofString "/p/b.ts", Text.ofString "/p/index.js"] := by
    decide
  have after : ((build modules' r'.resolution {}).nodes.get? "/p/index.js").map
      (fun n => n.imports.map InternalImport.target) =
        some [Text.ofString "/p/b.js", Text.ofString "/p/b.ts", Text.ofString "/p/index.js"] := by
    decide
  rw [hnode] at before
  rw [hnode'] at after
  exact ⟨grown, node, node', hnode, hnode', external, Option.some.inj before,
    Option.some.inj after, kept, unresolved⟩

end DependencyGraph

end ModuleAudit
