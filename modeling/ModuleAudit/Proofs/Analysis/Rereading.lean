import ModuleAudit.Proofs.Analysis.Inside
import ModuleAudit.Proofs.Analysis.Verdicts
import ModuleAudit.Proofs.Record.RoundTrip

/-!
# The graph of a report as facts

A report writes the node of every module so that it can be read again. What is
read are the facts without the imports that lead out of the project or nowhere.
The modules are the same, so every other import leads where it led before, and an
analysis of the facts that were read finds the same graph. Whatever a report says
about the project itself is a function of that graph.
-/

namespace ModuleAudit

/-! ## Writing the nodes as facts -/

/-- The graph of a report, taken as facts about its modules. -/
def AnalysisReport.graphFacts (r : AnalysisReport) : FactMap :=
  .ofList ((Json.fieldsOf (r.toJson.fieldOrNull "dependencyGraph")).map fun e => (.str e.1, e.2))

/-- Nodes as reading the facts makes them: absolute paths, and no name is empty. -/
def NodeMap.IsProper (nodes : NodeMap) : Prop :=
  ∀ e ∈ nodes.entries, Path.isAbsolute e.1 = true ∧
    (∀ i ∈ e.2.imports, i.statement.IsProper) ∧ ∀ x ∈ e.2.exports, x.name ≠ []

namespace AnalysisReport

theorem entries_graphFacts (r : AnalysisReport) :
    r.graphFacts.entries = r.nodes.entries.map fun e => (.str e.1, e.2.toJson) := by
  have written : Json.fieldsOf (r.toJson.fieldOrNull "dependencyGraph") =
      r.nodes.entries.map fun e => (e.1, e.2.toJson) := rfl
  rw [graphFacts, written, List.map_map]
  refine FactMap.entries_ofList (List.pairwise_map.2 ?_)
  refine (List.pairwise_map.1 r.nodes.nodup_keys).imp fun {a b} other => ?_
  simpa [Json.sameKey] using other

variable {r : AnalysisReport} (proper : NodeMap.IsProper r.nodes)

include proper

theorem read_toJson (l : Limits) {e : Text × ModuleNode} (he : e ∈ r.nodes.entries) :
    Record.read l (.str e.1) e.2.toJson = .ok (e.1, e.2.internalFacts) := by
  obtain ⟨absolute, imports, exports⟩ := proper e he
  exact Record.read_eq_ok_iff.2 ⟨⟨rfl, absolute⟩, Record.readFacts_toJson imports exports e.1⟩

/-- Every node is read as its internal facts. -/
theorem modules_graphFacts (l : Limits) :
    r.graphFacts.modules l = r.nodes.map fun _ => ModuleNode.internalFacts := by
  ext1
  rw [FactMap.entries_modules, FactMap.accepted, entries_graphFacts, List.filterMap_map,
    Table.entries_map, ← List.filterMap_eq_map]
  refine List.filterMap_congr fun e he => ?_
  rw [Function.comp_apply, FactMap.moduleOf_eq, read_toJson proper l he]
  rfl

/-- Nothing is refused, and nothing hinders the reading. -/
theorem settle_graphFacts (l : Limits) {entry : Json × Json}
    (hentry : entry ∈ r.graphFacts.entries) :
    FactMap.errorOf l entry = none ∧ FactMap.obstacleOf l entry = none := by
  rw [entries_graphFacts] at hentry
  obtain ⟨e, he, rfl⟩ := List.mem_map.1 hentry
  have read := read_toJson proper l he
  constructor
  · refine Option.eq_none_iff_forall_ne_some.2 fun error refused => ?_
    obtain ⟨_, refused, -⟩ := FactMap.errorOf_eq_some_iff.1 refused
    cases read.symm.trans refused
  · refine Option.eq_none_iff_forall_ne_some.2 fun reason unread => ?_
    cases read.symm.trans (FactMap.obstacleOf_eq_some_iff.1 unread)

theorem errors_graphFacts (l : Limits) : r.graphFacts.errors l = [] :=
  List.filterMap_eq_nil_iff.2 fun _ hentry => (settle_graphFacts proper l hentry).1

theorem obstacle?_graphFacts (l : Limits) : r.graphFacts.obstacle? l = none :=
  r.graphFacts.obstacle?_eq_none_iff.2 fun _ hentry => (settle_graphFacts proper l hentry).2

end AnalysisReport

/-! ## Analysing them again -/

/-- The internal facts of a node are placed as before. -/
theorem Resolver.nodeOf_internalFacts (r : Resolver) (path : Text) (facts : ModuleFacts) :
    r.nodeOf path (r.nodeOf path facts).internalFacts = (r.nodeOf path facts).internalPart := by
  have again {i : InternalImport} (hi : i ∈ (r.nodeOf path facts).imports) :=
    (resolve_of_mem_nodeOf hi).2
  have imports : (r.nodeOf path (r.nodeOf path facts).internalFacts).imports =
      (r.nodeOf path facts).imports := by
    rw [imports_nodeOf r path (ModuleNode.internalFacts _), ModuleNode.internalFacts,
      List.filterMap_map]
    refine (List.filterMap_congr fun i hi => ?_).trans List.filterMap_some
    obtain ⟨relative, found⟩ := again hi
    rw [Function.comp_apply, if_pos relative, found]
    rfl
  have external : (r.nodeOf path (r.nodeOf path facts).internalFacts).external = [] := by
    rw [external_nodeOf, List.map_eq_nil_iff, List.filter_eq_nil_iff]
    intro s hs
    obtain ⟨i, hi, rfl⟩ := List.mem_map.1 hs
    simp [(again hi).1]
  have unresolved : (r.nodeOf path (r.nodeOf path facts).internalFacts).unresolved = [] := by
    rw [unresolved_nodeOf, List.filter_eq_nil_iff]
    intro s hs
    obtain ⟨i, hi, rfl⟩ := List.mem_map.1 hs
    simp [again hi]
  rw [ModuleNode.internalPart, ← imports, ← external, ← unresolved]
  rfl

namespace Project

open DependencyGraph

variable (p : Project) {facts facts' : FactMap}
  (reread : facts'.modules p.limits =
    (p.survey facts).graph.nodes.map fun _ => ModuleNode.internalFacts)

include reread

theorem keys_reread : (facts'.modules p.limits).keys = (facts.modules p.limits).keys := by
  rw [reread, Table.keys_map, keys_nodes_survey]

/-- The modules are known under the same paths. -/
theorem resolver_reread : (p.survey facts').resolver = (p.survey facts).resolver :=
  p.resolver_eq_of_keys (p.keys_reread reread)

theorem plainNodes_reread :
    p.plainNodes facts' = (p.plainNodes facts).map fun _ => ModuleNode.internalPart := by
  rw [plainNodes, reread, p.resolver_reread reread, nodes_survey, Table.map_map, Table.map_map,
    plainNodes, Table.map_map]
  refine Table.map_congr fun e _ => ?_
  exact (p.survey facts).resolver.nodeOf_internalFacts e.1 e.2

theorem internalImports_reread :
    internalImports (p.plainNodes facts') = internalImports (p.plainNodes facts) := by
  rw [p.plainNodes_reread reread, internalImports, Table.entries_map, List.flatMap_map]
  rfl

/-- The nodes are the same inside the project, and nothing leads out of it. -/
theorem nodes_reread :
    (p.survey facts').graph.nodes =
      (p.survey facts).graph.nodes.map fun _ => ModuleNode.internalPart := by
  have importers : p.importers facts' = p.importers facts := by
    funext path
    rw [Project.importers, p.internalImports_reread reread, Project.importers]
  rw [nodes_survey, reread, nodes_survey, Table.map_map, Table.map_map, Table.map_map]
  refine Table.map_congr fun e _ => ?_
  rw [surveyNode, p.resolver_reread reread, importers]
  have same : (p.surveyNode facts e.1 e.2).internalFacts =
      ((p.survey facts).resolver.nodeOf e.1 e.2).internalFacts := rfl
  rw [same, Resolver.nodeOf_internalFacts]
  rfl

theorem links_reread : (p.survey facts').graph.links = (p.survey facts).graph.links := by
  rw [links_survey, links_survey, p.internalImports_reread reread, p.keys_reread reread]

/-- Reading again keeps what lies inside the project. -/
theorem agreeInside_reread : (p.survey facts).AgreeInside (p.survey facts') where
  root := p.root_eq_of_keys (p.keys_reread reread)
  resolver := p.resolver_reread reread
  links := p.links_reread reread
  nodes := by rw [p.nodes_reread reread, Table.map_map]; rfl

/-- Without imports that lead nowhere there is nothing to judge. -/
theorem judgedUnresolved_reread : (p.survey facts').judgedUnresolved p = .ok [] := by
  have none : (p.survey facts').unresolved = [] := by
    rw [Survey.unresolved, unresolvedImports, p.nodes_reread reread, Table.entries_map,
      List.flatMap_map, List.map_eq_nil_iff, List.flatMap_eq_nil_iff]
    exact fun e _ => rfl
  rw [Survey.judgedUnresolved, none]
  rfl

/-- A report on the facts that were read agrees with the one that was written. -/
theorem assemble_reread (errors : facts'.errors p.limits = [])
    (unused : List (Classified UnusedExport)) (missing : List (Classified MissingExport))
    (unresolved : List (Classified UnresolvedImport)) :
    let r := (p.survey facts).assemble p unused missing unresolved
    let r' := (p.survey facts').assemble p unused missing []
    r'.errors = [] ∧ r'.root = r.root ∧
      r'.nodes = r.nodes.map (fun _ => ModuleNode.internalPart) ∧
      r'.cycleDetails = r.cycleDetails ∧ r'.components = r.components ∧
      r'.coupled = r.coupled ∧ r'.profile = r.profile := by
  have agree := p.agreeInside_reread reread
  have records : (p.survey facts').recordErrors = [] := errors
  intro r r'
  simp only [r, r', Survey.errors_assemble, Survey.root_assemble, Survey.nodes_assemble,
    Survey.cycleDetails_assemble, Survey.components_assemble, Survey.coupled_assemble,
    Survey.profile_assemble]
  refine ⟨?_, agree.root, p.nodes_reread reread, ?_, ?_, ?_, agree.profile p⟩
  · rw [records, errors_survey, List.append_nil]
  · rw [agree.cycleDetails]
  · rw [agree.links]
  · rw [agree.coupled]

end Project

namespace Project

/-- Whatever a survey lists was read, so its nodes can be written and read again. -/
theorem isProper_nodes_survey (p : Project) (facts : FactMap) :
    NodeMap.IsProper (p.survey facts).graph.nodes := by
  intro e he
  rw [entries_nodes_survey] at he
  obtain ⟨⟨path, record⟩, accepted, rfl⟩ := List.mem_map.1 he
  obtain ⟨entry, -, read⟩ := facts.mem_accepted_iff.1 accepted
  obtain ⟨imports, exports⟩ := Record.isProper_of_readFacts (Record.read_eq_ok_iff.1 read).2
  exact ⟨facts.isAbsolute_of_mem_accepted accepted,
    fun i hi => imports _ (Resolver.resolve_of_mem_nodeOf hi).1, exports⟩

/-- The graph of a report encodes the project. Taken as facts and analysed with the
same settings, it is accepted as a whole and gives the same nodes without the imports
that lead out of the project or nowhere; the cycles, the components, the judged
findings about exports and the coupling are the same. -/
theorem analyze_graphFacts (p : Project) (facts : FactMap) {r : AnalysisReport}
    (h : p.analyze facts = .ok r) :
    ∃ r', p.analyze r.graphFacts = .ok r' ∧ r'.errors = [] ∧ r'.root = r.root ∧
      r'.nodes = r.nodes.map (fun _ n => { n with external := [], unresolved := [] }) ∧
      r'.cycles = r.cycles ∧ r'.cycleDetails = r.cycleDetails ∧ r'.components = r.components ∧
      r'.unused = r.unused ∧ r'.missing = r.missing ∧ r'.unresolved = [] ∧
      r'.coupled = r.coupled ∧ r'.profile = r.profile := by
  obtain ⟨⟨-, searched, logged⟩, judged⟩ := analyze_eq_ok_iff.1 h
  obtain ⟨unused, missing, unresolved, hunused, hmissing, -, report⟩ :=
    ((p.survey facts).judged_eq_ok_iff p).1 judged
  have nodes : r.nodes = (p.survey facts).graph.nodes := by rw [report]; rfl
  have proper : NodeMap.IsProper r.nodes := nodes ▸ p.isProper_nodes_survey facts
  have reread : r.graphFacts.modules p.limits =
      (p.survey facts).graph.nodes.map fun _ => ModuleNode.internalFacts :=
    nodes ▸ AnalysisReport.modules_graphFacts proper p.limits
  have accepted := AnalysisReport.errors_graphFacts proper p.limits
  have readable := AnalysisReport.obstacle?_graphFacts proper p.limits
  generalize r.graphFacts = facts' at reread accepted readable ⊢
  subst report
  have agree := p.agreeInside_reread reread
  obtain ⟨errors, root, nodes, details, components, coupled, profile⟩ :=
    p.assemble_reread reread accepted unused missing unresolved
  have again : (p.survey facts').judged p =
      .ok ((p.survey facts').assemble p unused missing []) :=
    ((p.survey facts').judged_eq_ok_iff p).2 ⟨unused, missing, [],
      (agree.judgedUnused p).trans hunused, (agree.judgedMissing p).trans hmissing,
      p.judgedUnresolved_reread reread, rfl⟩
  exact ⟨_, analyze_eq_ok_iff.2 ⟨⟨readable, searched, logged⟩, again⟩,
    errors, root, nodes, congrArg (List.map CycleDetail.cycle) details, details, components,
    rfl, rfl, rfl, coupled, profile⟩

/-- Two modules that import each other, written with other field names, missing
words and a form that is no text; one also imports what is not there. A third
entry is refused. -/
def aliasedFacts : FactMap :=
  let x : Json := .obj [("type", .str "named"), ("imported", .str "x"), ("local", .str "")]
  .ofList [
    (.str "/a.js", .obj [
      ("file_type", .str "code"),
      ("imports", .arr [
        .obj [("source", .str "./b"), ("type", .arr [.int 1]), ("specifiers", .arr [x])],
        .obj [("source", .str "./gone"), ("line", .int 2)]])]),
    (.str "/b.js", .obj [
      ("imports", .arr [.obj [("source", .str "./a.js"), ("specifiers", .null)]]),
      ("exports", .arr [.obj [("name", .str "default"), ("source", .bool true)]])]),
    (.null, .obj [])]

theorem analyze_graphFacts_aliased :
    let circle : List Text := ["/a.js", "/b.js", "/a.js"]
    ∃ r r', analyze {} aliasedFacts = .ok r ∧ r.errors ≠ [] ∧ r.unresolved ≠ [] ∧
      r.missing ≠ [] ∧ r.cycles = [circle] ∧ analyze {} r.graphFacts = .ok r' ∧
      r'.errors = [] ∧ r'.unresolved = [] ∧ r'.missing = r.missing ∧ r'.cycles = [circle] := by
  intro circle
  have found : (analyze {} aliasedFacts).toOption.any (fun r => r.errors.length = 1 ∧
      r.unresolved.length = 1 ∧ r.missing.length = 1 ∧ r.cycles = [circle]) = true := by
    decide +kernel
  cases h : analyze {} aliasedFacts with
  | error reason => rw [h] at found; cases found
  | ok r =>
    rw [h] at found
    obtain ⟨errors, unresolved, missing, cycles⟩ := of_decide_eq_true found
    obtain ⟨r', again, accepted, -, -, same, -, -, -, vain, resolved, -⟩ :=
      analyze_graphFacts {} aliasedFacts h
    exact ⟨r, r', rfl, List.ne_nil_of_length_eq_add_one errors,
      List.ne_nil_of_length_eq_add_one unresolved, List.ne_nil_of_length_eq_add_one missing, cycles,
      again, accepted, resolved, vain, same.trans cycles⟩

end Project

end ModuleAudit
