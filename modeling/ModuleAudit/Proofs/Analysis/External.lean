import ModuleAudit.Proofs.Analysis.Inside
import ModuleAudit.Proofs.Analysis.Verdicts
import ModuleAudit.Proofs.Record.External

/-!
# External imports have no influence on internal findings

An import that leads out of the project is placed without the help of other modules
and is entered on no other module. Fact maps that differ in such imports only have the
same modules, so every other import is placed as before; the surveys agree inside the
project, and the reports differ only in what they list and count about the outside.
-/

namespace ModuleAudit

def ModuleNode.withoutExternal (n : ModuleNode) : ModuleNode := { n with external := [] }

/-- A report without what it lists and counts about the outside of the project. -/
def AnalysisReport.withoutExternal (r : AnalysisReport) : AnalysisReport :=
  { r with
    nodes := r.nodes.map fun _ => ModuleNode.withoutExternal
    stats := { r.stats with externalEdges := 0, externalPackages := 0, externalBuiltins := 0 } }

/-- Placing an external import puts it on the list of external imports and on no other. -/
theorem Resolver.nodeOf_inside (r : Resolver) (path : Text) (facts : ModuleFacts) :
    r.nodeOf path facts.inside = (r.nodeOf path facts).withoutExternal := by
  have imports : (r.nodeOf path facts.inside).imports = (r.nodeOf path facts).imports := by
    rw [imports_nodeOf, imports_nodeOf, ModuleFacts.inside, internalOf, List.filterMap_filter]
    refine List.filterMap_congr fun s _ => ?_
    cases isRelativeSpecifier s.source <;> rfl
  have external : (r.nodeOf path facts.inside).external = [] := by
    rw [external_nodeOf, List.map_eq_nil_iff, List.filter_eq_nil_iff]
    intro s hs
    simp [(List.mem_filter.1 hs).2]
  have unresolved : (r.nodeOf path facts.inside).unresolved = (r.nodeOf path facts).unresolved := by
    rw [unresolved_nodeOf, unresolved_nodeOf, ModuleFacts.inside, internalOf, List.filter_filter]
    refine List.filter_congr fun s _ => ?_
    cases isRelativeSpecifier s.source <;> simp
  rw [ModuleNode.withoutExternal, ← imports, ← external, ← unresolved]
  rfl

namespace Project

open DependencyGraph

variable (p : Project) {facts facts' : FactMap}
  (inside : (facts'.modules p.limits).map (fun _ => ModuleFacts.inside) =
    (facts.modules p.limits).map fun _ => ModuleFacts.inside)

include inside

theorem keys_of_inside :
    (facts'.modules p.limits).keys = (facts.modules p.limits).keys := by
  have keys := congrArg Table.keys inside
  rwa [Table.keys_map, Table.keys_map] at keys

theorem plainNodes_of_inside :
    (p.plainNodes facts').map (fun _ => ModuleNode.withoutExternal) =
      (p.plainNodes facts).map fun _ => ModuleNode.withoutExternal := by
  have resolver := p.resolver_eq_of_keys (p.keys_of_inside inside)
  have placed (facts : FactMap) :
      (p.plainNodes facts).map (fun _ => ModuleNode.withoutExternal) =
        ((facts.modules p.limits).map fun _ => ModuleFacts.inside).map
          (p.survey facts).resolver.nodeOf := by
    rw [plainNodes, Table.map_map, Table.map_map]
    exact Table.map_congr fun e _ => ((p.survey facts).resolver.nodeOf_inside e.1 e.2).symm
  rw [placed, placed, inside, resolver]

theorem internalImports_of_inside :
    internalImports (p.plainNodes facts') = internalImports (p.plainNodes facts) := by
  have inner (nodes : NodeMap) : internalImports nodes =
      internalImports (nodes.map fun _ => ModuleNode.withoutExternal) := by
    rw [internalImports, internalImports, Table.entries_map, List.flatMap_map]
    rfl
  rw [inner, p.plainNodes_of_inside inside, ← inner]

/-- The nodes are the same up to the imports that lead out of the project. -/
theorem nodes_of_inside :
    (p.survey facts').graph.nodes.map (fun _ => ModuleNode.withoutExternal) =
      (p.survey facts).graph.nodes.map fun _ => ModuleNode.withoutExternal := by
  have importers : p.importers facts' = p.importers facts := by
    funext path
    rw [Project.importers, p.internalImports_of_inside inside, Project.importers]
  have entered (facts : FactMap) :
      (p.survey facts).graph.nodes.map (fun _ => ModuleNode.withoutExternal) =
        ((p.plainNodes facts).map fun _ => ModuleNode.withoutExternal).map fun path node =>
          { node with importedBy := p.importers facts path } := by
    rw [nodes_survey, plainNodes, Table.map_map, Table.map_map, Table.map_map]
    rfl
  rw [entered, entered, p.plainNodes_of_inside inside, importers]

theorem links_of_inside : (p.survey facts').graph.links = (p.survey facts).graph.links := by
  rw [links_survey, links_survey, p.internalImports_of_inside inside, p.keys_of_inside inside]

theorem agreeInside_of_inside : (p.survey facts).AgreeInside (p.survey facts') where
  root := p.root_eq_of_keys (p.keys_of_inside inside)
  resolver := p.resolver_eq_of_keys (p.keys_of_inside inside)
  links := p.links_of_inside inside
  nodes := by
    have inner (nodes : NodeMap) : nodes.map (fun _ => ModuleNode.internalPart) =
        (nodes.map fun _ => ModuleNode.withoutExternal).map fun _ => ModuleNode.internalPart := by
      rw [Table.map_map]
      rfl
    rw [inner, p.nodes_of_inside inside, ← inner]

theorem unresolvedImports_of_inside :
    unresolvedImports (p.survey facts').graph.nodes =
      unresolvedImports (p.survey facts).graph.nodes := by
  have inner (nodes : NodeMap) : unresolvedImports nodes =
      unresolvedImports (nodes.map fun _ => ModuleNode.withoutExternal) := by
    rw [unresolvedImports, unresolvedImports, Table.entries_map, List.flatMap_map]
    rfl
  rw [inner, p.nodes_of_inside inside, ← inner]

theorem judgedUnresolved_of_inside :
    (p.survey facts').judgedUnresolved p = (p.survey facts).judgedUnresolved p := by
  rw [Survey.judgedUnresolved, Survey.unresolved, p.unresolvedImports_of_inside inside,
    (p.agreeInside_of_inside inside).classify p]
  rfl

/-- What the nodes list apart from the external imports is the same. -/
theorem flatMap_values_of_inside {β : Type} {f : ModuleNode → List β}
    (blind : ∀ n, f (ModuleNode.withoutExternal n) = f n) :
    (p.survey facts').graph.nodes.values.flatMap f =
      (p.survey facts).graph.nodes.values.flatMap f := by
  have inner (nodes : NodeMap) : nodes.values.flatMap f =
      (nodes.map fun _ => ModuleNode.withoutExternal).values.flatMap f := by
    simp [Table.values, List.flatMap_map, blind]
  rw [inner, p.nodes_of_inside inside, ← inner]

/-- Reports that are put together from the same verdicts differ only in what they say
about the outside. -/
theorem assemble_of_inside (size : facts'.size = facts.size)
    (errors : facts'.errors p.limits = facts.errors p.limits)
    (unused : List (Classified UnusedExport)) (missing : List (Classified MissingExport))
    (unresolved : List (Classified UnresolvedImport)) :
    ((p.survey facts').assemble p unused missing unresolved).withoutExternal =
      ((p.survey facts).assemble p unused missing unresolved).withoutExternal := by
  have agree := p.agreeInside_of_inside inside
  have nodes := p.nodes_of_inside inside
  have count : (p.survey facts').factCount = (p.survey facts).factCount := size
  have records : (p.survey facts').recordErrors = (p.survey facts).recordErrors := errors
  have nodeCount : (p.survey facts').graph.nodes.size = (p.survey facts).graph.nodes.size := by
    rw [← Table.length_keys, keys_nodes_survey, p.keys_of_inside inside, ← keys_nodes_survey,
      Table.length_keys]
  have internal : NodeMap.internalCount (p.survey facts').graph.nodes =
      NodeMap.internalCount (p.survey facts).graph.nodes :=
    congrArg List.length (p.flatMap_values_of_inside inside fun _ => rfl)
  have dangling : NodeMap.unresolvedCount (p.survey facts').graph.nodes =
      NodeMap.unresolvedCount (p.survey facts).graph.nodes :=
    congrArg List.length (p.flatMap_values_of_inside inside fun _ => rfl)
  simp only [Survey.assemble, AnalysisReport.withoutExternal, nodes, agree.root, agree.cycleDetails,
    agree.links, agree.coupled p, agree.profile p, count, records, nodeCount, internal, dangling,
    errors_survey]

/-- The findings are judged alike. -/
theorem judged_of_inside (size : facts'.size = facts.size)
    (errors : facts'.errors p.limits = facts.errors p.limits) :
    ((p.survey facts').judged p).map AnalysisReport.withoutExternal =
      ((p.survey facts).judged p).map AnalysisReport.withoutExternal := by
  have agree := p.agreeInside_of_inside inside
  rw [Survey.judged, agree.judgedUnused p, agree.judgedMissing p,
    p.judgedUnresolved_of_inside inside, Survey.judged]
  cases (p.survey facts).judgedUnused p with
  | error error => rfl
  | ok unused =>
    cases (p.survey facts).judgedMissing p with
    | error error => rfl
    | ok missing =>
      cases (p.survey facts).judgedUnresolved p with
      | error error => rfl
      | ok unresolved =>
        exact congrArg Except.ok
          (p.assemble_of_inside inside size errors unused missing unresolved)

end Project

namespace Project

/-- External imports have no influence on internal findings. Where two fact maps differ
in well-formed external imports only, of a form that can be shown, the analyses fail in
the same way or their reports are the same, apart from the external imports that the nodes
list and the counts of them. -/
theorem analyze_of_sameInside (p : Project) {facts facts' : FactMap}
    (same : facts.SameInside p.limits facts') :
    (p.analyze facts').map AnalysisReport.withoutExternal =
      (p.analyze facts).map AnalysisReport.withoutExternal := by
  have inside := same.modules_eq
  have agree := p.agreeInside_of_inside inside
  rw [analyze, same.obstacle?_eq, analyze]
  cases facts.obstacle? p.limits with
  | some reason => rfl
  | none =>
    dsimp only
    rw [Survey.map_report, p.judged_of_inside inside same.size_eq same.errors_eq,
      agree.couplingJournal p, Survey.map_report]

/-- Two modules that import each other, one of them also what leads nowhere, with some
other imports; a third entry is refused for its import without a source. -/
def outwardFacts (first second third : List Json) : FactMap :=
  let statement (source : Text) (line : Int) : Json :=
    .obj [("source", .str source), ("line", .int line)]
  .ofList [
    (.str "/a.js", .obj [("imports", .arr (first ++ [statement "./b" 1, statement "./gone" 2]))]),
    (.str "/b.js", .obj [("imports", .arr (statement "./a" 7 :: second))]),
    (.str "/c.js", .obj [("imports", .arr (third ++ [.obj []]))])]

theorem analyze_of_sameInside_rearranged :
    let react : Json := .obj [("source", .str "react"), ("line", .int 3)]
    let fs : Json := .obj [("source", .str "node:fs"), ("specifiers", .null)]
    let facts := outwardFacts [react] [] []
    let facts' := outwardFacts [] [fs, react] [fs]
    facts.SameInside {} facts' ∧
      NodeMap.originCount (survey {} facts).graph.nodes .builtin = 0 ∧
      NodeMap.originCount (survey {} facts').graph.nodes .builtin = 1 ∧
      ∃ r r', analyze {} facts = .ok r ∧ analyze {} facts' = .ok r' ∧
        (r.errors.length = 1 ∧ r.unresolved.length = 1 ∧ r.cycles.length = 1) ∧
        r'.errors = r.errors ∧ r'.unresolved = r.unresolved ∧ r'.cycles = r.cycles := by
  intro react fs facts facts'
  have external : Grammar.IsExternalImport {} react :=
    .of_source ⟨⟨_, rfl⟩, ⟨"react", by decide, rfl⟩, .given 3, .absent⟩ (.of_absent rfl) rfl
      (by decide)
  have builtin : Grammar.IsExternalImport {} fs :=
    .of_source ⟨⟨_, rfl⟩, ⟨"node:fs", by decide, rfl⟩, .absent, .vain rfl⟩ (.of_absent rfl) rfl
      (by decide)
  have same : facts.SameInside {} facts' :=
    .cons ⟨rfl, .of_items (.take external (.keep _ (.keep _ .nil))) []⟩
      (.cons ⟨rfl, .of_items (.keep _ (.put builtin (.put external .nil))) []⟩
        (.cons ⟨rfl, .of_items (.put builtin (.keep _ .nil)) []⟩ .nil))
  obtain ⟨r, found, counted⟩ := exists_ok_of_any_toOption (show (analyze {} facts).toOption.any
    (fun r => r.errors.length = 1 ∧ r.unresolved.length = 1 ∧ r.cycles.length = 1) = true by
      decide +kernel)
  have reports := analyze_of_sameInside {} same
  rw [found] at reports
  cases found' : analyze {} facts' with
  | error error => rw [found'] at reports; cases reports
  | ok r' =>
    rw [found'] at reports
    have reports : r'.withoutExternal = r.withoutExternal := Except.ok.inj reports
    have errors : r'.withoutExternal.errors = r.withoutExternal.errors := congrArg _ reports
    have unresolved : r'.withoutExternal.unresolved = r.withoutExternal.unresolved :=
      congrArg _ reports
    have cycles : r'.withoutExternal.cycles = r.withoutExternal.cycles := congrArg _ reports
    exact ⟨same, by decide +kernel, by decide +kernel, r, r', found, rfl,
      of_decide_eq_true counted, errors, unresolved, cycles⟩

end Project

end ModuleAudit
