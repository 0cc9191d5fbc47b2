import ModuleAudit.Proofs.Analysis.Survey
import ModuleAudit.Proofs.Analysis.Verdicts

/-!
# No import is lost

Every import statement of an accepted entry is placed once: on its node it is an
internal import, an external one or an unresolved one. The counts of a report are
taken from the nodes, so they add up to the import statements that were read; the
entries that were not read are the errors.
-/

namespace ModuleAudit

/-! ## One module -/

def Placement.statement : Placement → ImportStatement
  | .internal i => i.statement
  | .external i => i.statement
  | .unresolved s => s

/-- The import statements on a node, by where they lead. -/
def ModuleNode.statements (n : ModuleNode) : List ImportStatement :=
  n.imports.map InternalImport.statement ++
    (n.external.map ExternalImport.statement ++ n.unresolved)

/-- A placed statement is on one of the three lists of its node, once. -/
theorem ModuleNode.statements_ofPlacements_perm (facts : ModuleFacts)
    (placements : List Placement) :
    (ofPlacements facts placements).statements.Perm (placements.map Placement.statement) := by
  change (((placements.filterMap Placement.internal?).map _) ++
    ((placements.filterMap Placement.external?).map _ ++
      placements.filterMap Placement.unresolved?)).Perm _
  induction placements with
  | nil => exact .nil
  | cons placement placements ih =>
    cases placement with
    | internal i => exact ih.cons i.statement
    | external i => exact (List.perm_cons_append_cons i.statement (ih.symm)).symm
    | unresolved s =>
      rw [← List.append_assoc] at ih ⊢
      exact (List.perm_cons_append_cons s ih.symm).symm

theorem Resolver.statement_place (r : Resolver) (importer : Text) (s : ImportStatement) :
    (r.place importer s).statement = s := by
  unfold place
  split
  · cases r.resolve s.source importer <;> rfl
  · rfl

/-- A resolver's node has the import statements of its facts. -/
theorem Resolver.statements_nodeOf_perm (r : Resolver) (path : Text) (facts : ModuleFacts) :
    (r.nodeOf path facts).statements.Perm facts.imports := by
  have placed : (facts.imports.map (r.place path)).map Placement.statement = facts.imports := by
    rw [List.map_map]
    exact (List.map_congr_left fun s _ => r.statement_place path s).trans (List.map_id _)
  exact (ModuleNode.statements_ofPlacements_perm facts _).trans (.of_eq placed)

/-! ## All modules -/

namespace NodeMap

variable (nodes : NodeMap)

/-- The three counts add up to the import statements on the nodes. -/
theorem internalCount_add_externals_add_unresolvedCount :
    internalCount nodes + (externals nodes).length + unresolvedCount nodes =
      (nodes.values.flatMap ModuleNode.statements).length := by
  unfold internalCount externals unresolvedCount
  induction nodes.values with
  | nil => rfl
  | cons n rest ih =>
    simp only [List.flatMap_cons, List.length_append, ModuleNode.statements, List.length_map]
    omega

/-- An external import leads to a package or to a builtin. -/
theorem length_externals :
    (externals nodes).length = originCount nodes .package + originCount nodes .builtin := by
  rw [originCount, originCount,
    List.length_eq_countP_add_countP (l := externals nodes) fun e => e.origin = .package]
  congr 1
  refine List.countP_congr fun e _ => ?_
  cases e.origin <;> decide

end NodeMap

namespace Project

variable (p : Project) (facts : FactMap)

/-- The nodes of a survey have the import statements of the accepted entries. -/
theorem statements_survey_perm :
    ((p.survey facts).graph.nodes.values.flatMap ModuleNode.statements).Perm
      ((facts.accepted p.limits).flatMap fun e => e.2.imports) := by
  rw [Table.values, entries_nodes_survey, List.map_map, List.flatMap_map]
  exact List.Perm.flatMap_left _ fun e _ =>
    (p.survey facts).resolver.statements_nodeOf_perm e.1 e.2

theorem length_unresolved_survey :
    (p.survey facts).unresolved.length =
      NodeMap.unresolvedCount (p.survey facts).graph.nodes := by
  simp [Survey.unresolved, DependencyGraph.unresolvedImports, NodeMap.unresolvedCount,
    Table.values, List.flatMap_map, List.length_flatMap]

end Project

namespace Project

/-- No import is lost and none counts twice. A relative specifier begins with `./`
or `../`. The imports of an accepted entry stand on its node in their order: the
relative ones with a target, the relative ones without, and all others. Unless the
analysis fails in one of its stages there is a report, and its counts add up: the
three kinds of imports to all import statements that were read, packages and builtins
to the external imports, the modules and the refused entries to all entries. -/
theorem analyze_conserves_imports (p : Project) (facts : FactMap) :
    let s := p.survey facts
    (∀ specifier, isRelativeSpecifier specifier = true ↔
      Text.ofString "./" <+: specifier ∨ Text.ofString "../" <+: specifier) ∧
    (∀ e ∈ facts.entries, ∀ path record,
        Record.read p.limits e.1 e.2 = .ok (path, record) →
      ∃ node, s.graph.nodes.get? path = some node ∧
        node.imports = record.imports.filterMap (fun i =>
          if isRelativeSpecifier i.source then
            (s.resolver.resolve i.source path).map fun target => { statement := i, target }
          else none) ∧
        node.unresolved = record.imports.filter (fun i =>
          isRelativeSpecifier i.source && (s.resolver.resolve i.source path).isNone) ∧
        node.external = (record.imports.filter fun i => !isRelativeSpecifier i.source).map
          (fun i => { statement := i, origin := originOf i.source }) ∧
        (node.imports.map InternalImport.statement ++
          (node.external.map ExternalImport.statement ++ node.unresolved)).Perm record.imports) ∧
    ((∃ error, p.analyze facts = .error error ∧ p.FailsBy facts error) ∨
      ∃ r, p.analyze facts = .ok r ∧ r.nodes = s.graph.nodes ∧
        r.stats.internalEdges + r.stats.externalEdges + r.stats.unresolvedInternals =
          ((facts.accepted p.limits).flatMap fun e => e.2.imports).length ∧
        r.stats.externalEdges = r.stats.externalPackages + r.stats.externalBuiltins ∧
        r.stats.unresolvedInternals = r.unresolved.length ∧
        r.stats.totalModules = facts.size ∧
        (r.stats.totalModules : Int) = r.stats.analyzedModules + r.stats.malformedModules ∧
        r.stats.malformedModules = (facts.errors p.limits).length) := by
  intro s
  refine ⟨fun specifier => by simp [isRelativeSpecifier, Text.begins], ?_, ?_⟩
  · intro e he path record read
    have known : (facts.modules p.limits).get? path = some record := by
      rw [← Table.mem_entries_iff _ (path, record), FactMap.entries_modules]
      exact facts.mem_accepted_iff.2 ⟨e, he, read⟩
    refine ⟨p.surveyNode facts path record, ?_, s.resolver.imports_nodeOf path record,
      s.resolver.unresolved_nodeOf path record, s.resolver.external_nodeOf path record,
      s.resolver.statements_nodeOf_perm path record⟩
    rw [get?_nodes_survey, known, Option.map_some]
  · cases h : p.analyze facts with
    | error error => exact .inl ⟨error, rfl, analyze_eq_error_iff.1 h⟩
    | ok r =>
      have readable := (analyze_eq_ok_iff.1 h).1.readable
      obtain ⟨unused, missing, unresolved, -, -, judged, rfl⟩ := assembled_of_analyze h
      have findings : unresolved.length = s.unresolved.length := length_of_mapM judged
      have entries : facts.size = s.graph.nodes.size + (facts.errors p.limits).length := by
        rw [p.size_nodes_survey facts]
        exact facts.size_eq_of_readable readable
      refine .inr ⟨_, rfl, rfl, ?_, NodeMap.length_externals _, ?_, rfl, ?_, ?_⟩
      · exact (NodeMap.internalCount_add_externals_add_unresolvedCount _).trans
          (p.statements_survey_perm facts).length_eq
      · exact (findings.trans (p.length_unresolved_survey facts)).symm
      · change (facts.size : Int) = s.graph.nodes.size + (facts.size - s.graph.nodes.size)
        omega
      · change (facts.size : Int) - s.graph.nodes.size = (facts.errors p.limits).length
        omega

/-- A module with an import of each kind, a module without any, and an entry whose
path is not absolute. -/
def mixedFacts : FactMap :=
  .ofList [(.str "/a.js", Record.importing ["fs/promises", "./b", "./gone", "react"]),
    (.str "c.js", Record.importing ["./b"]), (.str "/b.js", Record.importing [])]

theorem analyze_conserves_imports_mixed :
    (∃ e ∈ mixedFacts.entries, ∃ record node, Record.read {} e.1 e.2 = .ok ("/a.js", record) ∧
      (survey {} mixedFacts).graph.nodes.get? "/a.js" = some node ∧
      node.imports.map InternalImport.target = [Text.ofString "/b.js"] ∧
      node.unresolved.map ImportStatement.source = [Text.ofString "./gone"] ∧
      node.external.map ExternalImport.origin = [.builtin, .package]) ∧
    ∃ r, analyze {} mixedFacts = .ok r ∧
      r.stats.internalEdges + r.stats.externalEdges + r.stats.unresolvedInternals = 4 ∧
      r.stats.malformedModules = 1 := by
  obtain ⟨-, placed, counted⟩ := analyze_conserves_imports {} mixedFacts
  refine ⟨?_, ?_⟩
  · let e : Json × Json :=
      (.str "/a.js", Record.importing ["fs/promises", "./b", "./gone", "react"])
    have he : e ∈ mixedFacts.entries := by decide
    obtain ⟨node, found, imports, unresolved, external, -⟩ := placed e he "/a.js" _ rfl
    refine ⟨e, he, _, node, rfl, found, ?_, ?_, ?_⟩
    · rw [imports]; decide
    · rw [unresolved]; decide
    · rw [external]; decide
  · have succeeds : (analyze {} mixedFacts).isOk = true := by decide +kernel
    obtain ⟨_, failed, -⟩ | ⟨r, ok, -, all, -, -, -, -, refused⟩ := counted
    · rw [failed] at succeeds
      cases succeeds
    · exact ⟨r, ok, all.trans (by decide), refused.trans (by decide)⟩

end Project

end ModuleAudit
