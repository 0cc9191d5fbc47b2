import ModuleAudit.Proofs.Analysis.Survey
import ModuleAudit.Proofs.Analysis.Verdicts
import ModuleAudit.Proofs.Cycle.Reported

/-!
# Breaking points are import statements

A breaking point is made for each step of a cycle that is an edge of the graph,
and every step of a reported cycle is one, so none is left out. Sorting them by
what they cost moves no two of the same cost past each other.

The label of an edge was written when its first import was entered. Read back
through the survey, it shows the first statement of the importer whose specifier
the resolver leads to the target.
-/

namespace ModuleAudit

/-- The step of a cycle at which it can be broken. -/
def BreakingPoint.step {ε : Type} (q : BreakingPoint ε) : Text × Text := (q.source, q.target)

theorem Impact.rank_inj {a b : Impact} : a.rank = b.rank ↔ a = b := by
  cases a <;> cases b <;> decide

namespace Cycle

variable {ε : Type} {g : Digraph Text ε} {path : List Text}

theorem breakingPoint?_eq_some_iff {e : Text × Text} {q : BreakingPoint ε} :
    breakingPoint? g e = some q ↔ q.step = e ∧ g.label? q.source q.target = some q.label ∧
      q.impact = .ofDependents (g.inDegree q.target) := by
  obtain ⟨source, target⟩ := e
  obtain ⟨source', target', label, impact⟩ := q
  simp only [breakingPoint?, BreakingPoint.step, Option.map_eq_some_iff, BreakingPoint.mk.injEq,
    Prod.mk.injEq]
  constructor
  · rintro ⟨_, found, rfl, rfl, rfl, rfl⟩
    exact ⟨⟨rfl, rfl⟩, found, rfl⟩
  · rintro ⟨⟨rfl, rfl⟩, found, rfl⟩
    exact ⟨label, found, rfl, rfl, rfl, rfl⟩

/-- A path along edges has a breaking point for every step, in their order. -/
theorem map_step_filterMap (linked : ∀ e ∈ Walk.steps path, g.hasEdge e.1 e.2 = true) :
    ((Walk.steps path).filterMap (breakingPoint? g)).map BreakingPoint.step = Walk.steps path := by
  rw [List.map_filterMap]
  refine (List.filterMap_congr fun e he => ?_).trans List.filterMap_some
  obtain ⟨label, found⟩ := Option.isSome_iff_exists.1 ((g.hasEdge_iff_label? _ _).1 (linked e he))
  simp [breakingPoint?, found, BreakingPoint.step]

theorem mem_breakingPoints_iff {q : BreakingPoint ε} :
    q ∈ breakingPoints g path ↔ q.step ∈ Walk.steps path ∧
      g.label? q.source q.target = some q.label ∧
      q.impact = .ofDependents (g.inDegree q.target) := by
  rw [breakingPoints, List.mem_mergeSort, List.mem_filterMap]
  constructor
  · rintro ⟨e, he, made⟩
    obtain ⟨rfl, found⟩ := breakingPoint?_eq_some_iff.1 made
    exact ⟨he, found⟩
  · rintro ⟨he, found⟩
    exact ⟨q.step, he, breakingPoint?_eq_some_iff.2 ⟨rfl, found⟩⟩

theorem map_step_breakingPoints_perm (linked : ∀ e ∈ Walk.steps path, g.hasEdge e.1 e.2 = true) :
    ((breakingPoints g path).map BreakingPoint.step).Perm (Walk.steps path) := by
  have sorted := (List.mergeSort_perm ((Walk.steps path).filterMap (breakingPoint? g))
    fun p q => decide (p.impact.rank ≤ q.impact.rank)).map BreakingPoint.step
  rwa [map_step_filterMap linked] at sorted

theorem pairwise_breakingPoints (g : Digraph Text ε) (path : List Text) :
    (breakingPoints g path).Pairwise fun p q => p.impact.rank ≤ q.impact.rank :=
  pairwise_mergeSort_key (fun _ _ => decide_eq_true_iff) _

/-- Breaking points of one impact stand in the order of the path. -/
theorem sublist_filter_breakingPoints (linked : ∀ e ∈ Walk.steps path, g.hasEdge e.1 e.2 = true)
    (impact : Impact) :
    (((breakingPoints g path).filter fun q => q.impact = impact).map BreakingPoint.step).Sublist
      (Walk.steps path) := by
  have spec (p q : BreakingPoint ε) :
      decide (p.impact.rank ≤ q.impact.rank) = true ↔ p.impact.rank ≤ q.impact.rank :=
    decide_eq_true_iff
  have stable :=
    filter_mergeSort_key spec ((Walk.steps path).filterMap (breakingPoint? g)) impact.rank
  simp only [Impact.rank_inj] at stable
  rw [breakingPoints, stable]
  have kept : (((Walk.steps path).filterMap (breakingPoint? g)).filter
      fun q => q.impact = impact).Sublist ((Walk.steps path).filterMap (breakingPoint? g)) :=
    List.filter_sublist
  simpa only [map_step_filterMap linked] using kept.map BreakingPoint.step

end Cycle

/-- The first import of a node that leads to a module is made by the first statement
that the resolver leads there. -/
theorem Resolver.head?_imports_nodeOf (r : Resolver) (path : Text) (facts : ModuleFacts)
    (target : Text) :
    ((r.nodeOf path facts).imports.filter fun i => i.target = target).head? =
      (facts.imports.find? fun s => r.resolve s.source path = some target).map fun s =>
        { statement := s, target } := by
  rw [imports_nodeOf]
  induction facts.imports with
  | nil => rfl
  | cons s rest ih =>
    have outside (external : isRelativeSpecifier s.source = false) :
        r.resolve s.source path = none :=
      if_neg (Bool.eq_false_iff.1 external)
    rw [List.filterMap_cons, List.find?_cons]
    cases found : r.resolve s.source path with
    | none => simpa using ih
    | some other =>
      have relative : isRelativeSpecifier s.source = true := by
        by_contra external
        rw [outside (Bool.eq_false_iff.2 external)] at found
        cases found
      by_cases same : other = target
      · simp [relative, same]
      · simpa [relative, same] using ih

namespace Project

open DependencyGraph

variable (p : Project) (facts : FactMap)

/-- The label of a link in a survey shows the first statement of the importer that
leads to the target. -/
theorem exists_import_of_label? {a b : Text} {link : Link}
    (label : (p.survey facts).graph.links.label? a b = some link) :
    ∃ record s, (facts.modules p.limits).get? a = some record ∧
      (record.imports.find? fun s =>
        (p.survey facts).resolver.resolve s.source a = some b) = some s ∧
      link.specifier = s.source ∧ link.line = s.line := by
  have linked : (p.survey facts).graph.links.Links a b :=
    (Digraph.hasEdge_iff_label? _ _ _).2 (Option.isSome_of_mem label)
  have target : b ∈ (facts.modules p.limits).keys := ((p.links_survey_iff facts a b).1 linked).1
  have read :=
    label?_links_build (facts.modules p.limits) (p.survey facts).resolver.resolution a target
  obtain ⟨i, first, rfl⟩ := Option.map_eq_some_iff.1 (read.symm.trans label)
  have first : (importsInto (p.survey facts).graph.nodes a b).head? = some i := first
  rw [importsInto, get?_nodes_survey] at first
  cases known : (facts.modules p.limits).get? a with
  | none => simp [known] at first
  | some record =>
    rw [known] at first
    have first : (((p.survey facts).resolver.nodeOf a record).imports.filter
        fun i => i.target = b).head? = some i := first
    rw [Resolver.head?_imports_nodeOf] at first
    obtain ⟨s, found, rfl⟩ := Option.map_eq_some_iff.1 first
    exact ⟨record, s, rfl, found, rfl, rfl⟩

/-- The cycles of a report are described one by one. -/
theorem exists_of_mem_cycleDetails {r : AnalysisReport} (reported : p.analyze facts = .ok r)
    {d : CycleDetail Link} (hd : d ∈ r.cycleDetails) :
    d.cycle ∈ (p.survey facts).graph.links.cycles ∧
      d.breakingPoints = Cycle.breakingPoints (p.survey facts).graph.links d.cycle := by
  obtain ⟨unused, missing, unresolved, -, -, -, rfl⟩ := assembled_of_analyze reported
  rw [Survey.cycleDetails_assemble, Survey.whenOn] at hd
  split at hd
  · obtain ⟨⟨cycle, id⟩, listed, rfl⟩ := List.mem_map.1 hd
    exact ⟨List.fst_mem_of_mem_zipIdx listed, rfl⟩
  · cases hd

/-- The breaking points of a reported cycle are its steps, none left out, from the
least impact to the greatest and in the order of the cycle where the impact is the
same. Each shows the specifier and the line of the first statement of its source
that the resolver leads to its target. -/
theorem breakingPoints_are_imports {r : AnalysisReport} (reported : p.analyze facts = .ok r)
    {d : CycleDetail Link} (hd : d ∈ r.cycleDetails) :
    (d.breakingPoints.map BreakingPoint.step).Perm (Walk.steps d.cycle) ∧
      (d.breakingPoints.Pairwise fun q q' => q.impact.rank ≤ q'.impact.rank) ∧
      (∀ impact, ((d.breakingPoints.filter fun q => q.impact = impact).map
        BreakingPoint.step).Sublist (Walk.steps d.cycle)) ∧
      ∀ q ∈ d.breakingPoints,
        q.impact = .ofDependents ((p.survey facts).graph.dependents q.target).length ∧
        ∃ record s, (facts.modules p.limits).get? q.source = some record ∧
          (record.imports.find? fun s =>
            (p.survey facts).resolver.resolve s.source q.source = some q.target) = some s ∧
          q.label.specifier = s.source ∧ q.label.line = s.line ∧
          (p.survey facts).resolver.resolve q.label.specifier q.source = some q.target := by
  obtain ⟨listed, points⟩ := p.exists_of_mem_cycleDetails facts reported hd
  have linked : ∀ e ∈ Walk.steps d.cycle, (p.survey facts).graph.links.hasEdge e.1 e.2 = true :=
    (Walk.isChain_iff_steps d.cycle).1 (Digraph.isReport_of_mem_cycles listed).linked
  rw [points]
  refine ⟨Cycle.map_step_breakingPoints_perm linked, Cycle.pairwise_breakingPoints _ _,
    Cycle.sublist_filter_breakingPoints linked, ?_⟩
  intro q hq
  obtain ⟨-, label, impact⟩ := Cycle.mem_breakingPoints_iff.1 hq
  obtain ⟨record, s, known, first, specifier, line⟩ := p.exists_import_of_label? facts label
  refine ⟨impact, record, s, known, first, specifier, line, ?_⟩
  rw [specifier]
  simpa using List.find?_some first

/-- Two modules import each other, one of them twice, and a third imports one of
the two. -/
def entangledFacts : FactMap :=
  let statement (source : Text) (line : Int) : Json :=
    .obj [("source", .str source), ("line", .int line)]
  .ofList
    [(.str "/p/a.js", .obj [("imports", .arr [statement "./b" 1, statement "./b.js" 4])]),
      (.str "/p/b.js", .obj [("imports", .arr [statement "react" 1, statement "./a" 2])]),
      (.str "/p/c.js", .obj [("imports", .arr [statement "./b" 1])])]

theorem breakingPoints_are_imports_entangled :
    let resolver := (survey {} entangledFacts).resolver
    let a : Text := "/p/a.js"
    let b : Text := "/p/b.js"
    ∃ r d q, analyze {} entangledFacts = .ok r ∧ d ∈ r.cycleDetails ∧ d.cycle = [a, b, a] ∧
      (d.breakingPoints.map BreakingPoint.step).Perm (Walk.steps [a, b, a]) ∧
      q ∈ d.breakingPoints ∧ q.step = (a, b) ∧ q.impact = .medium ∧
      q.label.specifier = "./b" ∧ q.label.line = some 1 ∧
      resolver.resolve q.label.specifier a = some b := by
  intro resolver a b
  have found : (analyze {} entangledFacts).toOption.any (fun r =>
      r.cycleDetails.any fun d => d.cycle = [a, b, a]) = true := by
    decide +kernel
  obtain ⟨r, reported, found⟩ := exists_ok_of_any_toOption found
  obtain ⟨d, hd, same⟩ := List.any_eq_true.1 found
  have same : d.cycle = [a, b, a] := of_decide_eq_true same
  obtain ⟨steps, -, -, imports⟩ := breakingPoints_are_imports {} entangledFacts reported hd
  rw [same] at steps
  obtain ⟨q, hq, step⟩ := List.mem_map.1 (steps.mem_iff.2 (show (a, b) ∈ _ by decide))
  obtain ⟨impact, record, s, known, first, specifier, line, resolved⟩ := imports q hq
  have source : q.source = a := congrArg Prod.fst step
  have target : q.target = b := congrArg Prod.snd step
  rw [source, target] at first resolved
  rw [source] at known
  have read : ((entangledFacts.modules {}).get? a).bind (fun record =>
      record.imports.find? fun s => resolver.resolve s.source a = some b) =
        some { source := "./b", line := some 1, bindings := [], form := "import" } := by
    decide +kernel
  rw [known, Option.bind_some, first] at read
  obtain rfl := Option.some.inj read
  refine ⟨r, d, q, reported, hd, same, steps, hq, step, ?_, specifier, line, resolved⟩
  rw [impact, target]
  decide +kernel

end Project

end ModuleAudit
