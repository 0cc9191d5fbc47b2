import ModuleAudit.DependencyGraph.Build
import ModuleAudit.Proofs.Path.Extension
import ModuleAudit.Proofs.Traversal

/-!
# Placed imports

A module's imports are placed one by one, and a single failure leaves its node
without any. Whatever internal import a node holds was therefore resolved: its
target is what its specifier leads to. A resolver only leads to paths it knows, and
never to the empty one.
-/

namespace ModuleAudit

/-- Every target that a resolution finds is among the paths. -/
def Resolution.LeadsInto (resolve : Resolution) (paths : List Text) : Prop :=
  ∀ specifier importer target, resolve specifier importer = .ok (some target) → target ∈ paths

theorem Resolution.LeadsInto.mono {resolve : Resolution} {paths others : List Text}
    (h : resolve.LeadsInto paths) (known : paths ⊆ others) : resolve.LeadsInto others :=
  fun specifier importer target found => known (h specifier importer target found)

/-- A resolver finds only the paths it knows. -/
theorem Resolver.resolution_leadsInto (r : Resolver) : r.resolution.LeadsInto r.paths := by
  intro specifier importer target found
  have resolved : r.resolve specifier importer = some target := Except.ok.inj found
  unfold Resolver.resolve at resolved
  split at resolved
  · simpa using List.find?_some resolved
  · cases resolved

theorem given_eq_some_iff {text : Option Text} {t : Text} :
    given text = some t ↔ text = some t ∧ t ≠ [] := by
  rw [given, Option.filter_eq_some_iff]
  simp

/-- Placing an import looks at the target that its resolution gives, if it gives one. -/
theorem placeImport_eq (resolve : Resolution) (importer : Text) (s : ImportStatement) :
    placeImport resolve importer s =
      if isRelativeSpecifier s.source then
        ((resolve s.source importer).map given).map fun
          | some target => .internal { statement := s, target }
          | none => .unresolved s
      else .ok (.external { statement := s, origin := originOf s.source }) := by
  unfold placeImport
  split
  · cases resolve s.source importer with
    | error reason => rfl
    | ok found =>
      dsimp only [Except.map]
      cases given found <;> rfl
  · rfl

namespace ModuleNode

/-- A node is built from placements of its imports, or without any imports. -/
theorem buildOrBare_cases (resolve : Resolution) (path : Text) (facts : ModuleFacts) :
    (∃ placements, facts.imports.mapM (placeImport resolve path) = .ok placements ∧
      buildOrBare resolve path facts = ofPlacements facts placements) ∨
      buildOrBare resolve path facts = ofFacts facts := by
  unfold buildOrBare build
  cases h : facts.imports.mapM (placeImport resolve path) with
  | error reason => exact .inr rfl
  | ok placements => exact .inl ⟨placements, rfl, rfl⟩

/-- A node starts without importers. -/
theorem importedBy_buildOrBare (resolve : Resolution) (path : Text) (facts : ModuleFacts) :
    (buildOrBare resolve path facts).importedBy = [] := by
  rcases buildOrBare_cases resolve path facts with ⟨placements, -, built⟩ | bare
  · rw [built]; rfl
  · rw [bare]; rfl

/-- The target of an internal import is what its specifier resolves to. -/
theorem resolve_of_mem_imports {resolve : Resolution} {path : Text} {facts : ModuleFacts}
    {i : InternalImport} (hi : i ∈ (buildOrBare resolve path facts).imports) :
    resolve i.statement.source path = .ok (some i.target) := by
  rcases buildOrBare_cases resolve path facts with ⟨placements, placed, built⟩ | bare
  · rw [built] at hi
    obtain ⟨placement, hplacement, hinternal⟩ := List.mem_filterMap.1 hi
    obtain ⟨s, -, hs⟩ := exists_of_mem_mapM placed hplacement
    unfold placeImport at hs
    split at hs
    · split at hs
      · rename_i found resolved
        split at hs <;> cases hs <;> cases hinternal
        rename_i proper
        rw [resolved, (given_eq_some_iff.1 proper).1]
      · cases hs
    · cases hs
      cases hinternal
  · rw [bare] at hi
    simp [ofFacts] at hi

end ModuleNode

/-! ## Placement by a resolver -/

namespace Resolver

def place (r : Resolver) (importer : Text) (s : ImportStatement) : Placement :=
  if isRelativeSpecifier s.source then
    match r.resolve s.source importer with
    | some target => .internal { statement := s, target }
    | none => .unresolved s
  else .external { statement := s, origin := originOf s.source }

theorem ne_nil_of_mem_indexProbes {r : Resolver} {directory candidate : Text}
    (tried : candidate ∈ r.indexProbes directory) : candidate ≠ [] := by
  obtain ⟨extension, -, rfl⟩ := List.mem_map.1 tried
  exact Path.join_ne_nil directory (by simp [Text.ofString])

theorem ne_nil_of_mem_fileProbes {r : Resolver} {path candidate : Text} (proper : path ≠ [])
    (tried : candidate ∈ r.fileProbes path) : candidate ≠ [] := by
  unfold fileProbes at tried
  dsimp only at tried
  split at tried
  · rcases List.mem_cons.1 tried with rfl | tried
    · exact proper
    · obtain ⟨other, hother, rfl⟩ := List.mem_map.1 tried
      split
      · rename_i bare
        rw [List.nil_append]
        rintro rfl
        simp [List.isEmpty_iff.1 bare] at hother
      · rename_i extended
        obtain ⟨c, hc, -⟩ := Path.exists_ne_dot_stem (by simpa using extended)
        exact List.append_ne_nil_of_left_ne_nil (List.ne_nil_of_mem hc) _
  · split at tried
    · exact List.mem_singleton.1 tried ▸ proper
    · rcases List.mem_cons.1 tried with rfl | tried
      · exact proper
      · obtain ⟨extension, -, rfl⟩ := List.mem_map.1 tried
        exact List.append_ne_nil_of_left_ne_nil proper _

theorem ne_nil_of_mem_candidates {r : Resolver} {specifier importer candidate : Text}
    (tried : candidate ∈ r.candidates specifier importer) : candidate ≠ [] := by
  unfold candidates at tried
  dsimp only at tried
  split at tried
  · exact ne_nil_of_mem_indexProbes tried
  · exact (List.mem_append.1 tried).elim
      (ne_nil_of_mem_fileProbes (Path.normalize_ne_nil _)) ne_nil_of_mem_indexProbes

/-- What a resolver finds is not empty, so that it is found in the graph as well. -/
theorem given_resolve (r : Resolver) (specifier importer : Text) :
    given (r.resolve specifier importer) = r.resolve specifier importer := by
  cases found : r.resolve specifier importer with
  | none => rfl
  | some path =>
    refine given_eq_some_iff.2 ⟨rfl, ?_⟩
    unfold resolve at found
    split at found
    · exact ne_nil_of_mem_candidates (List.mem_of_find?_eq_some found)
    · cases found

/-- A resolver places every import statement. -/
theorem placeImport_resolution (r : Resolver) (importer : Text) (s : ImportStatement) :
    placeImport r.resolution importer s = .ok (r.place importer s) := by
  unfold placeImport place resolution
  split
  · dsimp only
    rw [given_resolve]
    cases r.resolve s.source importer <;> rfl
  · rfl

/-- The node of a module whose imports a resolver places, before it has importers. -/
def nodeOf (r : Resolver) (path : Text) (facts : ModuleFacts) : ModuleNode :=
  .ofPlacements facts (facts.imports.map (r.place path))

theorem build_resolution (r : Resolver) (path : Text) (facts : ModuleFacts) :
    ModuleNode.build r.resolution path facts = .ok (r.nodeOf path facts) := by
  have placed : facts.imports.mapM (placeImport r.resolution path) =
      .ok (facts.imports.map (r.place path)) := by
    rw [mapM_eq_ok_iff, List.forall₂_map_right_iff, List.forall₂_same]
    exact fun s _ => r.placeImport_resolution path s
  rw [ModuleNode.build, placed]
  rfl

/-- With a resolver no node is bare. -/
theorem buildOrBare_resolution (r : Resolver) : ModuleNode.buildOrBare r.resolution = r.nodeOf := by
  funext path facts
  rw [ModuleNode.buildOrBare, build_resolution]

/-- With a resolver no module fails. -/
theorem errorOf_resolution (r : Resolver) (e : Text × ModuleFacts) :
    DependencyGraph.errorOf r.resolution e = none := by
  rw [DependencyGraph.errorOf, build_resolution]

/-- An import is internal when it is relative and its specifier leads to a module. -/
theorem imports_nodeOf (r : Resolver) (path : Text) (facts : ModuleFacts) :
    (r.nodeOf path facts).imports = facts.imports.filterMap fun s =>
      if isRelativeSpecifier s.source then
        (r.resolve s.source path).map fun target => { statement := s, target }
      else none := by
  change (facts.imports.map (r.place path)).filterMap Placement.internal? = _
  rw [List.filterMap_map]
  refine List.filterMap_congr fun s _ => ?_
  rw [Function.comp_apply, place]
  split
  · cases r.resolve s.source path <;> rfl
  · rfl

/-- An internal import is relative, and its specifier leads to its target. -/
theorem resolve_of_mem_nodeOf {r : Resolver} {path : Text} {facts : ModuleFacts}
    {i : InternalImport} (hi : i ∈ (r.nodeOf path facts).imports) :
    i.statement ∈ facts.imports ∧ isRelativeSpecifier i.statement.source = true ∧
      r.resolve i.statement.source path = some i.target := by
  rw [imports_nodeOf, List.mem_filterMap] at hi
  obtain ⟨s, hs, placed⟩ := hi
  split at placed
  · rename_i relative
    obtain ⟨target, found, rfl⟩ := Option.map_eq_some_iff.1 placed
    exact ⟨hs, relative, found⟩
  · cases placed

/-- An import is unresolved when it is relative and its specifier leads nowhere. -/
theorem unresolved_nodeOf (r : Resolver) (path : Text) (facts : ModuleFacts) :
    (r.nodeOf path facts).unresolved = facts.imports.filter fun s =>
      isRelativeSpecifier s.source && (r.resolve s.source path).isNone := by
  change (facts.imports.map (r.place path)).filterMap Placement.unresolved? = _
  rw [List.filterMap_map, ← List.filterMap_eq_filter]
  refine List.filterMap_congr fun s _ => ?_
  rw [Function.comp_apply, place, Option.guard]
  cases isRelativeSpecifier s.source with
  | false => rfl
  | true => cases r.resolve s.source path <;> rfl

/-- Every other import is external. -/
theorem external_nodeOf (r : Resolver) (path : Text) (facts : ModuleFacts) :
    (r.nodeOf path facts).external =
      (facts.imports.filter fun s => !isRelativeSpecifier s.source).map fun s =>
        { statement := s, origin := originOf s.source } := by
  change (facts.imports.map (r.place path)).filterMap Placement.external? = _
  rw [List.filterMap_map, ← List.filterMap_eq_map, List.filterMap_filter]
  refine List.filterMap_congr fun s _ => ?_
  rw [Function.comp_apply, place]
  cases isRelativeSpecifier s.source with
  | false => rfl
  | true => cases r.resolve s.source path <;> rfl

end Resolver

end ModuleAudit
