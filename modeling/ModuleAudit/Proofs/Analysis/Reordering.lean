import ModuleAudit.Proofs.Analysis.Survey
import ModuleAudit.Proofs.Analysis.Verdicts
import ModuleAudit.Proofs.Classify.Consulted
import ModuleAudit.Proofs.CommonRoot
import ModuleAudit.Proofs.Coupling
import ModuleAudit.Proofs.Cycle.Components
import ModuleAudit.Proofs.ExportUsage.Reordering

/-!
# The order of the entries does not matter

The entries of a fact map in another order are accepted and refused one by one as
before. The root and what a specifier leads to depend on the paths only, so the
graphs are alike, and with them everything that a report says, except for the
choice of the cycles that are shown; whether there are any is the same.
-/

namespace ModuleAudit

/-! ## Resolution -/

namespace Resolver

/-- What a specifier leads to depends on which paths are known. -/
theorem resolve_eq_of_perm {r r' : Resolver} (paths : r.paths.Perm r'.paths)
    (extensions : r.extensions = r'.extensions)
    (dataExtensions : r.dataExtensions = r'.dataExtensions) : r.resolve = r'.resolve := by
  have candidates : r.candidates = r'.candidates := by
    funext specifier importer
    rw [Resolver.candidates, indexProbes, fileProbes, knownExtensions, extensions, dataExtensions]
    rfl
  have known : r.paths.contains = r'.paths.contains := by
    funext path
    rw [Bool.eq_iff_iff, List.contains_iff_mem, List.contains_iff_mem, paths.mem_iff]
  funext specifier importer
  rw [resolve, resolve, candidates, known]

theorem nodeOf_eq_of_resolve {r r' : Resolver} (resolve : r.resolve = r'.resolve) :
    r.nodeOf = r'.nodeOf := by
  have place : r.place = r'.place := by
    funext importer s
    rw [Resolver.place, resolve, Resolver.place]
  funext path facts
  rw [nodeOf, place, nodeOf]

end Resolver

/-! ## Surveys -/

namespace Project

open DependencyGraph

variable (p : Project) {facts facts' : FactMap} (perm : facts.entries.Perm facts'.entries)

include perm

theorem root_eq_of_perm : (p.survey facts).root = (p.survey facts').root :=
  congrArg (given p.root).or (Path.commonRoot_eq_of_perm (FactMap.keys_modules_perm perm))

theorem nodeOf_eq_of_perm :
    (p.survey facts).resolver.nodeOf = (p.survey facts').resolver.nodeOf :=
  Resolver.nodeOf_eq_of_resolve
    (Resolver.resolve_eq_of_perm (FactMap.keys_modules_perm perm) rfl rfl)

theorem importers_perm (path : Text) : (p.importers facts path).Perm (p.importers facts' path) := by
  have imports : (internalImports (p.plainNodes facts)).Perm
      (internalImports (p.plainNodes facts')) := by
    rw [internalImports, internalImports, plainNodes, plainNodes, Table.entries_map,
      Table.entries_map, p.nodeOf_eq_of_perm perm]
    exact ((FactMap.entries_modules_perm perm).map _).flatMap_right _
  exact (imports.filter _).map _

/-- The graphs of both surveys are alike. -/
theorem nodes_alike :
    NodeMap.Alike (p.survey facts).graph.nodes (p.survey facts').graph.nodes where
  keys := by
    rw [keys_nodes_survey, keys_nodes_survey]
    exact FactMap.keys_modules_perm perm
  node := by
    intro path n n' hn hn'
    rw [get?_nodes_survey] at hn hn'
    rw [← Table.get?_eq_of_perm (FactMap.entries_modules_perm perm)] at hn'
    obtain ⟨record, read, rfl⟩ := Option.map_eq_some_iff.1 hn
    rw [read, Option.map_some, Option.some.injEq, surveyNode, ← p.nodeOf_eq_of_perm perm] at hn'
    subst hn'
    exact ⟨rfl, rfl, rfl, rfl, rfl, p.importers_perm perm path⟩

theorem links_eq_of_perm :
    (p.survey facts).graph.links.Links = (p.survey facts').graph.links.Links := by
  funext a b
  rw [eq_iff_iff, links_survey_iff, links_survey_iff, (FactMap.keys_modules_perm perm).mem_iff,
    (p.nodes_alike perm).importsInto_eq]

end Project

/-! ## Reports -/

/-- Reports that agree but for the order of their lists and the choice of cycles.
The components and the sorted parts of the profile are the same as they stand. -/
structure AnalysisReport.SameUpToOrder (r r' : AnalysisReport) : Prop where
  root : r.root = r'.root
  nodes : NodeMap.Alike r.nodes r'.nodes
  components : r.components = r'.components
  unused : r.unused.Perm r'.unused
  missing : r.missing.Perm r'.missing
  unresolved : r.unresolved.Perm r'.unresolved
  coupled : r.coupled.Perm r'.coupled
  profile : { r.profile with entryCandidates := [] } = { r'.profile with entryCandidates := [] }
  entryCandidates : r.profile.entryCandidates.Perm r'.profile.entryCandidates
  errors : r.errors.Perm r'.errors
  stats : { r.stats with circularDependencies := 0 } = { r'.stats with circularDependencies := 0 }
  cycles : r.cycles = [] ↔ r'.cycles = []

namespace Survey

theorem whenOn_perm {α : Type} (check : Bool) {l l' : List α} (perm : l.Perm l') :
    (whenOn check l).Perm (whenOn check l') := by
  cases check
  · exact .nil
  · exact perm

theorem whenOn_eq_nil_iff {α β : Type} (check : Bool) {l : List α} {l' : List β}
    (same : l = [] ↔ l' = []) : whenOn check l = [] ↔ whenOn check l' = [] := by
  cases check
  · exact ⟨fun _ => rfl, fun _ => rfl⟩
  · exact same

/-- There are details exactly of the cycles that are found. -/
theorem cycleDetails_eq_nil_iff (s : Survey) : s.cycleDetails = [] ↔ s.graph.links.cycles = [] := by
  rw [cycleDetails, Cycle.details, List.map_eq_nil_iff, List.zipIdx_eq_nil_iff]

end Survey

namespace Project

variable (p : Project) {facts facts' : FactMap} (perm : facts.entries.Perm facts'.entries)

include perm

theorem exists_judgedUnused_of_perm {unused : List (Classified UnusedExport)}
    (h : (p.survey facts).judgedUnused p = .ok unused) :
    ∃ unused', (p.survey facts').judgedUnused p = .ok unused' ∧ unused.Perm unused' := by
  have judge : (p.survey facts').exportClassifier p = (p.survey facts).exportClassifier p := by
    rw [Survey.exportClassifier, Survey.exportClassifier, p.root_eq_of_perm perm]
  rw [Survey.judgedUnused, judge]
  exact exists_mapM_of_perm
    (Survey.whenOn_perm _ (UsageReport.unused_perm (p.nodes_alike perm))) h

/-- Imports are judged alike in both surveys. -/
theorem classify_eq_of_perm :
    ((p.survey facts').importClassifier p).classify =
      ((p.survey facts).importClassifier p).classify :=
  ImportClassifier.classify_make_eq (FactMap.keys_modules_perm perm).symm
    (fun path => ((p.nodes_alike perm).map_get?_eq (fun _ _ h => h.exports) path).symm) _ _ _

theorem exists_judgedMissing_of_perm {missing : List (Classified MissingExport)}
    (h : (p.survey facts).judgedMissing p = .ok missing) :
    ∃ missing', (p.survey facts').judgedMissing p = .ok missing' ∧ missing.Perm missing' := by
  rw [Survey.judgedMissing, p.classify_eq_of_perm perm]
  exact exists_mapM_of_perm
    (Survey.whenOn_perm _ (UsageReport.missing_perm (p.nodes_alike perm))) h

theorem exists_judgedUnresolved_of_perm {unresolved : List (Classified UnresolvedImport)}
    (h : (p.survey facts).judgedUnresolved p = .ok unresolved) :
    ∃ unresolved', (p.survey facts').judgedUnresolved p = .ok unresolved' ∧
      unresolved.Perm unresolved' := by
  rw [Survey.judgedUnresolved, p.classify_eq_of_perm perm]
  exact exists_mapM_of_perm ((p.nodes_alike perm).unresolvedImports_perm.map _) h

theorem couplingMeter_eq_of_perm :
    (p.survey facts').couplingMeter p =
      { (p.survey facts).couplingMeter p with nodes := (p.survey facts').graph.nodes } := by
  rw [Survey.couplingMeter, Survey.couplingMeter, p.root_eq_of_perm perm]

/-- Reports on both surveys whose findings are judged alike. -/
theorem assemble_sameUpToOrder {unused unused' : List (Classified UnusedExport)}
    {missing missing' : List (Classified MissingExport)}
    {unresolved unresolved' : List (Classified UnresolvedImport)}
    (unused_perm : unused.Perm unused') (missing_perm : missing.Perm missing')
    (unresolved_perm : unresolved.Perm unresolved') :
    ((p.survey facts).assemble p unused missing unresolved).SameUpToOrder
      ((p.survey facts').assemble p unused' missing' unresolved') := by
  have alike := p.nodes_alike perm
  have links := p.links_eq_of_perm perm
  have root := p.root_eq_of_perm perm
  have coupled : ((p.survey facts).couplingMeter p).findings.Perm
      ((p.survey facts').couplingMeter p).findings := by
    rw [p.couplingMeter_eq_of_perm perm]
    exact CouplingMeter.findings_perm alike _ _ _
  constructor
  case root => exact root
  case nodes => exact alike
  case components =>
    rw [Survey.components_assemble, Survey.components_assemble,
      Digraph.cyclicComponents_eq_of_links links]
  case unused => exact unused_perm
  case missing => exact missing_perm
  case unresolved => exact unresolved_perm
  case coupled => exact Survey.whenOn_perm _ coupled
  case profile =>
    rw [Survey.profile_assemble, Survey.profile_assemble, p.couplingMeter_eq_of_perm perm]
    exact CouplingMeter.profile_eq alike _ _ _
  case entryCandidates =>
    rw [Survey.profile_assemble, Survey.profile_assemble, p.couplingMeter_eq_of_perm perm]
    exact CouplingMeter.entryCandidates_perm alike _ _ _
  case errors =>
    rw [Survey.errors_assemble, Survey.errors_assemble, errors_survey, errors_survey]
    exact (FactMap.errors_perm perm).append_right _
  case stats =>
    have entries : (p.survey facts).factCount = (p.survey facts').factCount := perm.length_eq
    simp only [Survey.assemble, entries, alike.size_eq, alike.internalCount_eq,
      alike.externals_perm.length_eq, alike.originCount_eq, alike.unresolvedCount_eq,
      unused_perm.length_eq, missing_perm.length_eq, (Survey.whenOn_perm _ coupled).length_eq,
      countProblematic, unused_perm.countP_eq, missing_perm.countP_eq, unresolved_perm.countP_eq]
  case cycles =>
    rw [AnalysisReport.cycles, AnalysisReport.cycles, List.map_eq_nil_iff, List.map_eq_nil_iff,
      Survey.cycleDetails_assemble, Survey.cycleDetails_assemble]
    refine Survey.whenOn_eq_nil_iff _ ?_
    rw [Survey.cycleDetails_eq_nil_iff, Survey.cycleDetails_eq_nil_iff]
    exact Digraph.cycles_eq_nil_iff_of_links links

theorem exists_judged_of_perm {r : AnalysisReport} (h : (p.survey facts).judged p = .ok r) :
    ∃ r', (p.survey facts').judged p = .ok r' ∧ r.SameUpToOrder r' := by
  obtain ⟨unused, missing, unresolved, hunused, hmissing, hunresolved, rfl⟩ :=
    ((p.survey facts).judged_eq_ok_iff p).1 h
  obtain ⟨unused', hunused', unused_perm⟩ := p.exists_judgedUnused_of_perm perm hunused
  obtain ⟨missing', hmissing', missing_perm⟩ := p.exists_judgedMissing_of_perm perm hmissing
  obtain ⟨unresolved', hunresolved', unresolved_perm⟩ :=
    p.exists_judgedUnresolved_of_perm perm hunresolved
  exact ⟨_, ((p.survey facts').judged_eq_ok_iff p).2
    ⟨unused', missing', unresolved', hunused', hmissing', hunresolved', rfl⟩,
    p.assemble_sameUpToOrder perm unused_perm missing_perm unresolved_perm⟩

end Project

namespace Project

/-- The order of the entries of a fact map does not matter. With the same settings
both orders meet an obstacle among the entries, where each gives up at the first one in
its own order, or both analyses fail for the same reason, or both have a report. The
reports agree but for the order of their lists and the choice of cycles. -/
theorem analyze_of_perm (p : Project) {facts facts' : FactMap}
    (perm : facts.entries.Perm facts'.entries) :
    (∃ reason ∈ facts.obstacles p.limits, ∃ reason' ∈ facts.obstacles p.limits,
      p.analyze facts = .error (.facts reason) ∧ p.analyze facts' = .error (.facts reason')) ∨
    (∃ error, p.analyze facts = .error error ∧ p.analyze facts' = .error error) ∨
    ∃ r r', p.analyze facts = .ok r ∧ p.analyze facts' = .ok r' ∧ r.SameUpToOrder r' := by
  have course := p.analyze_course facts
  have readable_iff := FactMap.obstacle?_eq_none_iff_of_perm (l := p.limits) perm
  generalize p.analyze facts = outcome at course ⊢
  cases course with
  | unread obstacle =>
    rename_i reason
    obtain ⟨reason', obstacle'⟩ : ∃ reason', facts'.obstacle? p.limits = some reason' := by
      refine Option.ne_none_iff_exists'.1 fun readable => ?_
      cases (readable_iff.2 readable).symm.trans obstacle
    refine .inl ⟨reason, ?_, reason', ?_, rfl, analyze_eq_error_iff.2 obstacle'⟩
    · exact facts.mem_obstacles_of_obstacle? obstacle
    · exact (FactMap.obstacles_perm perm).mem_iff.2 (facts'.mem_obstacles_of_obstacle? obstacle')
  | unsearched readable deep =>
    exact .inr (.inl ⟨_, rfl, analyze_eq_error_iff.2 ⟨readable_iff.1 readable, deep⟩⟩)
  | unjudged readable searched judged =>
    refine .inr (.inl ⟨_, rfl, ?_⟩)
    cases judged' : (p.survey facts').judged p with
    | ok r' =>
      obtain ⟨r, reported, -⟩ := p.exists_judged_of_perm perm.symm judged'
      cases judged.symm.trans reported
    | error error' =>
      obtain ⟨rfl, -⟩ := (p.judged_survey_eq_error_iff facts).1 judged
      obtain ⟨rfl, overflow⟩ := (p.judged_survey_eq_error_iff facts').1 judged'
      exact analyze_eq_error_iff.2 ⟨readable_iff.1 readable, searched, rfl, overflow⟩
  | unlogged readable searched judged long =>
    obtain ⟨r', judged', -⟩ := p.exists_judged_of_perm perm judged
    obtain ⟨below, -⟩ := (p.judged_survey_eq_ok_iff facts').1 judged'
    exact .inr (.inl ⟨_, rfl,
      analyze_eq_error_iff.2 ⟨readable_iff.1 readable, searched, below, rfl, long⟩⟩)
  | reported unhindered judged =>
    obtain ⟨r', judged', same⟩ := p.exists_judged_of_perm perm judged
    have unhindered' : p.Unhindered facts' :=
      ⟨readable_iff.1 unhindered.readable, unhindered.searched, unhindered.logged⟩
    exact .inr (.inr ⟨_, r', rfl, analyze_eq_ok_iff.2 ⟨unhindered', judged'⟩, same⟩)

/-- Three modules that import each other in several ways, one of them also what is
not there and a builtin, and an entry that is refused. -/
def triangleEntries : List (Json × Json) :=
  [(.str "/a.js", Record.importing ["./b", "./c"]),
    (.str "/b.js", Record.importing ["./a", "./c"]),
    (.str "/c.js", Record.importing ["./a", "./gone", "fs"]), (.str "d.js", Record.importing [])]

/-- The number of cycles that are shown does depend on the order. -/
theorem analyze_of_perm_triangle :
    let facts : FactMap := .ofList triangleEntries
    let reversed : FactMap := .ofList triangleEntries.reverse
    facts.entries.Perm reversed.entries ∧
      ∃ r r', analyze {} facts = .ok r ∧ analyze {} reversed = .ok r' ∧
        r.cycles.length = 2 ∧ r'.cycles.length = 3 ∧ r.components = r'.components ∧
        r.unresolved.Perm r'.unresolved ∧ r.profile.core = r'.profile.core := by
  intro facts reversed
  have written : reversed.entries = facts.entries.reverse := by decide
  have perm : facts.entries.Perm reversed.entries := written ▸ facts.entries.reverse_perm.symm
  have shown : (analyze {} facts).toOption.any (fun r => r.cycles.length = 2) = true := by
    decide +kernel
  have shown' : (analyze {} reversed).toOption.any (fun r => r.cycles.length = 3) = true := by
    decide +kernel
  obtain ⟨_, -, _, -, failed, -⟩ | ⟨_, failed, -⟩ | ⟨r, r', h, h', same⟩ := analyze_of_perm {} perm
  · rw [failed] at shown
    cases shown
  · rw [failed] at shown
    cases shown
  · rw [h] at shown
    rw [h'] at shown'
    have core := congrArg CouplingProfile.core same.profile
    exact ⟨perm, r, r', h, h', of_decide_eq_true shown, of_decide_eq_true shown', same.components,
      same.unresolved, core⟩

end Project

end ModuleAudit
