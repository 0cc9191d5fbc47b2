import ModuleAudit.Proofs.Analysis.ExportCorrection
import ModuleAudit.Proofs.Classify.Consulted
import ModuleAudit.Proofs.Text.Order

/-!
# Two kinds of findings

A missing export and an import without a target are judged by the same signals, and
what tells the two apart is whether a name is asked for. An empty name would count as
none. A missing export has a name that is not empty, because no binding is read
without one, so the signals that look at it are those about the exports of its
target: neither the paths of the modules nor the extensions take part in its verdict.
An import without a target asks for no name, and the exports of the modules take no
part in its verdict.
-/

namespace ModuleAudit

namespace ImportClassifier

/-- What holds of a missing export that was judged by the exports of its target. -/
structure JudgedByExports (c : ImportClassifier) (n : ModuleNode) (f : Classified MissingExport) :
    Prop where
  named : f.finding.name ≠ []
  noExtension : ImportSignal.missingExtension.name ∉ f.verdict.reasons
  typo_iff : ImportSignal.possibleTypo.name ∈ f.verdict.reasons ↔
    ∃ spelling ≠ [], ∀ other, NearExport n f.finding.name other ↔ other = spelling
  spelling : ∀ spelling,
    didYouMean spelling ∈ f.verdict.suggestions ∨ f.verdict.suggestion = didYouMean spelling →
      NearExport n f.finding.name spelling
  /-- Other paths and other extensions give the same verdict. -/
  pathless : ∀ resolver extensions,
    { c with resolver, extensions }.classify f.finding.subject = .ok f.verdict

/-- What holds of an import without a target that was judged by the paths of the
modules. -/
structure JudgedByPaths (c : ImportClassifier) (r : Resolver) (f : Classified UnresolvedImport) :
    Prop where
  noStar : ImportSignal.starReExportTarget.name ∉ f.verdict.reasons
  typo_iff : ImportSignal.possibleTypo.name ∈ f.verdict.reasons ↔
    wantedName f.finding.subject ∉ [[], Path.here, Path.up] ∧ ∃! path, Resembles r f.finding path
  spelling : ∀ spelling,
    didYouMean spelling ∈ f.verdict.suggestions ∨ f.verdict.suggestion = didYouMean spelling →
      ∃ path, Resembles r f.finding path ∧ spelling = specifierFor path f.finding.importer
  /-- Other nodes, with whatever exports, give the same verdict. -/
  exportless : ∀ nodes, { c with nodes }.classify f.finding.subject = .ok f.verdict

variable {c : ImportClassifier}

/-- The typo signal is among the reasons exactly when there is a likely spelling. -/
theorem typo_mem_reasons_iff {s : ImportSubject} {v : Verdict} (judged : c.classify s = .ok v) :
    ImportSignal.possibleTypo.name ∈ v.reasons ↔
      ∃ spelling, c.likelySpelling s = some spelling := by
  rw [(follows_of_classify judged).reasons, name_mem_reasons_iff, detect, Option.isSome_map,
    Option.isSome_iff_exists]

/-! ## Missing exports -/

section

variable {f : MissingExport}

theorem likelySpelling_missing_iff {n : ModuleNode} (named : f.name ≠ [])
    (found : c.nodes.get? f.target = some n) {spelling : Text} :
    c.likelySpelling f.subject = some spelling ↔
      spelling ≠ [] ∧ ∀ other, NearExport n f.name other ↔ other = spelling := by
  have exports : c.targetExports f.subject = n.exports := by
    simp [targetExports, MissingExport.subject, found]
  have once : (similarExports n.exports f.name).Nodup :=
    (Text.nodup_sort_eraseDups _).filter _
  have only : similarExports n.exports f.name = [spelling] ↔
      ∀ other, NearExport n f.name other ↔ other = spelling := by
    rw [← List.perm_singleton, List.perm_ext_iff_of_nodup once (List.nodup_singleton _)]
    simp only [mem_similarExports_iff, List.mem_singleton]
  rw [likelySpelling, given_name_subject named]
  dsimp only
  rw [exports, given, Option.filter_eq_some_iff, only?_eq_some_iff, only, and_comm]
  simp

/-- With a name, no signal looks at the paths or at the extensions. -/
theorem classify_missing_congr (named : f.name ≠ []) (resolver : Option Resolver)
    (extensions : List Text) :
    { c with resolver, extensions }.classify f.subject = c.classify f.subject := by
  have asked := given_name_subject named
  refine classify_congr ?_ rfl fun signal => ?_
  · simp only [meetsEmptyPath, asked, Option.isNone_some, Bool.false_and]
  · cases signal with
    | possibleTypo =>
      simp only [detect, likelySpelling, asked]
      rfl
    | missingExtension =>
      simp only [detect, asked, Option.isNone_some, Bool.false_and]
      cases extensions <;> cases c.extensions <;> rfl
    | _ => rfl

theorem judgedByExports {n : ModuleNode} {v : Verdict} (named : f.name ≠ [])
    (found : c.nodes.get? f.target = some n) (judged : c.classify f.subject = .ok v) :
    c.JudgedByExports n ⟨f, v⟩ where
  named := named
  noExtension := by
    rw [(follows_of_classify judged).reasons, name_mem_reasons_iff, detect,
      given_name_subject named]
    cases c.extensions <;> simp
  typo_iff := by
    rw [typo_mem_reasons_iff judged]
    simp only [likelySpelling_missing_iff named found]
  spelling := by
    intro spelling carried
    have likely := likelySpelling_of_classify judged carried
    exact (((likelySpelling_missing_iff named found).1 likely).2 spelling).2 rfl
  pathless := fun resolver extensions =>
    (classify_missing_congr named resolver extensions).trans judged

end

/-! ## Imports without a target -/

section

variable {f : UnresolvedImport}

theorem likelySpelling_unresolved_iff {spelling : Text} :
    c.likelySpelling f.subject = some spelling ↔
      ∃ path, c.similarModules f.subject = [path] ∧ specifierFor path f.importer = spelling := by
  simp only [likelySpelling, UnresolvedImport.subject, given, Option.filter_none,
    Option.map_eq_some_iff, only?_eq_some_iff]

/-- Without a name, no signal looks at the exports. -/
theorem classify_unresolved_congr (nodes : NodeMap) :
    { c with nodes }.classify f.subject = c.classify f.subject := by
  refine classify_congr rfl rfl fun signal => ?_
  cases signal <;> rfl

theorem judgedByPaths {r : Resolver} (resolver : c.resolver = some r) (once : r.paths.Nodup)
    {v : Verdict} (judged : c.classify f.subject = .ok v) : c.JudgedByPaths r ⟨f, v⟩ where
  noStar := by
    rw [(follows_of_classify judged).reasons, name_mem_reasons_iff]
    exact Bool.false_ne_true
  typo_iff := by
    rw [typo_mem_reasons_iff judged]
    simp only [likelySpelling_unresolved_iff]
    constructor
    · rintro ⟨_, path, only, -⟩
      obtain ⟨wanted, same⟩ := (similarModules_eq_singleton_iff resolver once).1 only
      exact ⟨wanted, path, (same path).2 rfl, fun other => (same other).1⟩
    · rintro ⟨wanted, path, resembles, unique⟩
      have same (other : Text) : Resembles r f other ↔ other = path :=
        ⟨unique other, fun equal => equal ▸ resembles⟩
      exact ⟨_, path, (similarModules_eq_singleton_iff resolver once).2 ⟨wanted, same⟩, rfl⟩
  spelling := by
    intro spelling carried
    obtain ⟨path, only, rfl⟩ :=
      likelySpelling_unresolved_iff.1 (likelySpelling_of_classify judged carried)
    obtain ⟨-, same⟩ := (similarModules_eq_singleton_iff resolver once).1 only
    exact ⟨path, (same path).2 rfl, rfl⟩
  exportless := fun nodes => (classify_unresolved_congr nodes).trans judged

end

end ImportClassifier

namespace Project

theorem judged_of_mem_unresolved {p : Project} {facts : FactMap} {r : AnalysisReport}
    (analyzed : p.analyze facts = .ok r) {f : Classified UnresolvedImport}
    (listed : f ∈ r.unresolved) :
    ((p.survey facts).importClassifier p).classify f.finding.subject = .ok f.verdict := by
  obtain ⟨unused, missing, unresolved, -, -, judged, rfl⟩ := assembled_of_analyze analyzed
  exact (Survey.judged_of_mem_classifyAll judged listed).2

/-- In a report, every missing export was judged by the exports of the module it asks,
and every import without a target by the paths of the modules. -/
theorem findings_judged_by_kind (p : Project) (facts : FactMap) {r : AnalysisReport}
    (analyzed : p.analyze facts = .ok r) :
    let c := (p.survey facts).importClassifier p
    (∀ f ∈ r.missing, ∃ n, r.nodes.get? f.finding.target = some n ∧ c.JudgedByExports n f) ∧
      ∀ f ∈ r.unresolved, c.JudgedByPaths (p.survey facts).resolver f := by
  intro c
  constructor
  · intro f listed
    obtain ⟨nodes, missing, judged⟩ := judged_of_mem_missing analyzed listed
    obtain ⟨n, found, -⟩ := UsageReport.exists_target_of_mem_missing missing
    have named := name_ne_nil_of_mem_missing (nodes ▸ missing)
    have seen : c.nodes.get? f.finding.target = some n := by
      rw [← found, ← nodes]
      rfl
    exact ⟨n, found, ImportClassifier.judgedByExports named seen judged⟩
  · intro f listed
    exact ImportClassifier.judgedByPaths rfl (facts.modules p.limits).keys_nodup
      (judged_of_mem_unresolved analyzed listed)

/-- One module forwards all names of a third, and another one asks it for a short name
and then misspells it. -/
def misspellingFacts : FactMap :=
  .ofList
    [(.str "/p/barrel.js", .obj [("exports", .arr [
        .obj [("name", .str "*"), ("kind", .str "re-export"), ("source", .str "./x")]])]),
      (.str "/p/main.js", .obj [("imports", .arr [
        .obj [("source", .str "./barrel"), ("specifiers", .arr [
          .obj [("kind", .str "named"), ("localName", .str "id")]])],
        .obj [("source", .str "./barel")]])])]

/-- Both findings of one report are suspected of a typo, each in its own way. -/
theorem findings_judged_by_kind_of_typos :
    let p : Project := {}
    let c := (p.survey misspellingFacts).importClassifier p
    ∃ r f g n, p.analyze misspellingFacts = .ok r ∧ f ∈ r.missing ∧ g ∈ r.unresolved ∧
      f.verdict.reasons = [.starReExportTarget, .possibleTypo].map ImportSignal.name ∧
      g.verdict.reasons = [.possibleTypo, .missingExtension].map ImportSignal.name ∧
      f.verdict.suggestions = [didYouMean "*"] ∧
      r.nodes.get? f.finding.target = some n ∧ c.JudgedByExports n f ∧
      ImportClassifier.NearExport n f.finding.name "*" ∧
      c.JudgedByPaths (p.survey misspellingFacts).resolver g ∧
      ∃! path, ImportClassifier.Resembles (p.survey misspellingFacts).resolver g.finding path := by
  intro p c
  have evaluated : (p.analyze misspellingFacts).toOption.any (fun r =>
      (r.missing.any fun f =>
        f.verdict.reasons = [.starReExportTarget, .possibleTypo].map ImportSignal.name ∧
          f.verdict.suggestions = [didYouMean "*"]) &&
      r.unresolved.any fun f =>
        f.verdict.reasons = [.possibleTypo, .missingExtension].map ImportSignal.name) = true := by
    decide +kernel
  obtain ⟨r, reported, evaluated⟩ := exists_ok_of_any_toOption evaluated
  rw [Bool.and_eq_true, List.any_eq_true, List.any_eq_true] at evaluated
  obtain ⟨⟨f, hf, freasons⟩, g, hg, greasons⟩ := evaluated
  obtain ⟨freasons, suggests⟩ := of_decide_eq_true freasons
  have greasons := of_decide_eq_true greasons
  obtain ⟨exported, moduled⟩ := findings_judged_by_kind p misspellingFacts reported
  obtain ⟨n, found, byExports⟩ := exported f hf
  have byPaths := moduled g hg
  refine ⟨r, f, g, n, reported, hf, hg, freasons, greasons, suggests, found, byExports, ?_, byPaths,
    ?_⟩
  · exact byExports.spelling _ (.inl (suggests ▸ List.mem_singleton_self _))
  · exact (byPaths.typo_iff.1 (greasons ▸ by decide)).2

end Project

end ModuleAudit
