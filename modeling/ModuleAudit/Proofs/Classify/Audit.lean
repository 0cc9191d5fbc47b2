import Mathlib.Algebra.Order.BigOperators.Group.List
import ModuleAudit.Classify.Export
import ModuleAudit.Proofs.Classify.Advice

/-!
# Auditing scores

A report lists the reasons of a verdict, and the score can be computed again from them
and the table of weights. This rests on two facts about the signals of a classifier.
They have different names and give reasons by which they can be told apart, so that no
reason is listed twice and each leads back to the weight that was added for it. And no
signal looks at the weights, so that the reasons and the suggestions are the same under
every table.

Larger weights therefore give a larger score to the same reasons, and a finding that is
likely valid stays so.
-/

namespace ModuleAudit

/-- The name of the signal that a reason stands for. One signal adds the word for a
framework to its name. -/
def tagOf (reason : Text) : Text :=
  if Text.begins "framework-pattern-" reason then "framework-pattern" else reason

/-- The score that a table of weights gives to reasons. -/
def auditedScore (weights : Table Text Int) (reasons : List Text) : Int :=
  (reasons.map fun reason => weightOf weights (tagOf reason)).sum

/-- Larger weights give the same reasons a larger score. -/
theorem auditedScore_le {weights weights' : Table Text Int}
    (raised : ∀ tag, weightOf weights tag ≤ weightOf weights' tag) (reasons : List Text) :
    auditedScore weights reasons ≤ auditedScore weights' reasons := by
  apply List.sum_le_sum
  intro reason _
  exact raised (tagOf reason)

/-! ## Signals before they are weighted -/

namespace NamedTest

variable {σ : Type}

/-- The hits of the tests at a subject, each with the name of its signal, in order. -/
def hits (tests : List (NamedTest σ)) (subject : σ) : List (Text × Hit) :=
  tests.filterMap fun t => (t.2 subject).map fun hit => (t.1, hit)

def reasonOf (h : Text × Hit) : Text := (given h.2.reason).getD h.1

section Evaluation

variable (weights : Table Text Int) (tests : List (NamedTest σ)) (subject : σ)

theorem hits_eq_map_fired :
    hits tests subject =
      (Signal.fired (weigh weights tests) subject).map fun f => (f.1.name, f.2) := by
  rw [Signal.fired, weigh, List.filterMap_map, hits, List.map_filterMap]
  refine List.filterMap_congr fun t _ => ?_
  show (t.2 subject).map _ = ((t.2 subject).map _).map _
  rw [Option.map_map]
  rfl

theorem weight_of_mem_fired {f : Signal σ × Hit}
    (fires : f ∈ Signal.fired (weigh weights tests) subject) :
    f.1.weight = weightOf weights f.1.name := by
  obtain ⟨signal, listed, fires⟩ := List.mem_filterMap.1 fires
  obtain ⟨t, -, rfl⟩ := List.mem_map.1 listed
  obtain ⟨hit, -, rfl⟩ := Option.map_eq_some_iff.1 fires
  rfl

theorem reasons_weigh :
    (Evaluation.ofSignals (weigh weights tests) subject).reasons =
      (hits tests subject).map reasonOf := by
  rw [Evaluation.reasons_ofSignals, hits_eq_map_fired weights, List.map_map]
  rfl

theorem suggestions_weigh :
    (Evaluation.ofSignals (weigh weights tests) subject).suggestions =
      (hits tests subject).filterMap fun h => given h.2.suggestion := by
  rw [Evaluation.suggestions_ofSignals, hits_eq_map_fired weights, List.filterMap_map]
  rfl

theorem score_weigh :
    (Evaluation.ofSignals (weigh weights tests) subject).score =
      ((hits tests subject).map fun h => weightOf weights h.1).sum := by
  rw [Evaluation.score_ofSignals, hits_eq_map_fired weights, List.map_map]
  apply congrArg List.sum
  apply List.map_congr_left
  intro f fires
  exact weight_of_mem_fired weights tests subject fires

end Evaluation

theorem map_fst_hits (tests : List (NamedTest σ)) (subject : σ) :
    (hits tests subject).map Prod.fst =
      (tests.filter fun t => (t.2 subject).isSome).map Prod.fst := by
  rw [hits, List.map_filterMap, ← List.filterMap_eq_map, List.filterMap_filter]
  refine List.filterMap_congr fun t _ => ?_
  cases t.2 subject <;> rfl

/-- Whether tests have different names and the reasons of their hits stand for these. -/
structure Tagged (tests : List (NamedTest σ)) (subject : σ) : Prop where
  distinct : (tests.map Prod.fst).Nodup
  tagOf_eq : ∀ t ∈ tests, ∀ hit, t.2 subject = some hit → tagOf (reasonOf (t.1, hit)) = t.1

/-- Tests of kinds with different names, whose reasons stand for the kinds. -/
theorem tagged_ofKinds {κ : Type} {kinds : List κ} {name : κ → Text}
    {detect : κ → σ → Option Hit} (subject : σ) (distinct : (kinds.map name).Nodup)
    (tagOf_eq : ∀ {kind hit}, detect kind subject = some hit →
      tagOf (reasonOf (name kind, hit)) = name kind) :
    Tagged (ofKinds kinds name detect) subject where
  distinct := by
    rw [ofKinds, List.map_map]
    exact distinct
  tagOf_eq := by
    intro t listed hit fires
    obtain ⟨kind, -, rfl⟩ := List.mem_map.1 listed
    exact tagOf_eq fires

namespace Tagged

variable {tests : List (NamedTest σ)} {subject : σ} (tagged : Tagged tests subject)

include tagged

theorem tagOf_reasonOf {h : Text × Hit} (listed : h ∈ hits tests subject) :
    tagOf (reasonOf h) = h.1 := by
  obtain ⟨t, known, made⟩ := List.mem_filterMap.1 listed
  obtain ⟨hit, fires, rfl⟩ := Option.map_eq_some_iff.1 made
  exact tagged.tagOf_eq t known hit fires

/-- No reason is listed twice, since reasons stand for different signals. -/
theorem nodup_reasons : ((hits tests subject).map reasonOf).Nodup := by
  have names :
      ((hits tests subject).map reasonOf).map tagOf = (hits tests subject).map Prod.fst := by
    rw [List.map_map]
    exact List.map_congr_left fun h listed => tagged.tagOf_reasonOf listed
  apply List.Nodup.of_map tagOf
  rw [names, map_fst_hits]
  exact tagged.distinct.sublist (List.filter_sublist.map Prod.fst)

/-- The weights that were added are those of the reasons. -/
theorem score_eq (weights : Table Text Int) :
    (Evaluation.ofSignals (weigh weights tests) subject).score =
      auditedScore weights ((hits tests subject).map reasonOf) := by
  rw [score_weigh, auditedScore, List.map_map]
  apply congrArg List.sum
  apply List.map_congr_left
  intro h listed
  show weightOf weights h.1 = weightOf weights (tagOf (reasonOf h))
  rw [tagged.tagOf_reasonOf listed]

end Tagged

end NamedTest

/-! ## Verdicts that can be checked -/

/-- Whether the verdicts that a judge passes under different tables of weights can be
checked from what they say. -/
structure Auditable (judge : Table Text Int → Except VerdictError Verdict)
    (reasons suggestions : List Text) : Prop where
  nodup : reasons.Nodup
  states : ∀ {weights v}, weights.entries ≠ [] → judge weights = .ok v →
    v.reasons = reasons ∧ v.suggestions = suggestions ∧
      v.score = auditedScore weights v.reasons ∧ v.classification = .ofScore v.score
  raised : ∀ {weights weights' v v'}, weights.entries ≠ [] → weights'.entries ≠ [] →
    (∀ tag, weightOf weights tag ≤ weightOf weights' tag) → judge weights = .ok v →
      judge weights' = .ok v' → v.classification = .likelyValid → v'.classification = .likelyValid

/-- Two tables of weights give the same reasons and suggestions, and each its own score to
these reasons. -/
theorem Auditable.agree {judge : Table Text Int → Except VerdictError Verdict}
    {reasons suggestions : List Text} (auditable : Auditable judge reasons suggestions)
    {weights weights' : Table Text Int} {v v' : Verdict} (nonempty : weights.entries ≠ [])
    (nonempty' : weights'.entries ≠ []) (judged : judge weights = .ok v)
    (judged' : judge weights' = .ok v') :
    v'.reasons = v.reasons ∧ v'.suggestions = v.suggestions ∧
      v.score = auditedScore weights reasons ∧ v'.score = auditedScore weights' reasons := by
  obtain ⟨same, suggestions, score, -⟩ := auditable.states nonempty judged
  obtain ⟨same', suggestions', score', -⟩ := auditable.states nonempty' judged'
  rw [same] at score
  rw [same'] at score'
  exact ⟨same'.trans same.symm, suggestions'.trans suggestions.symm, score, score'⟩

/-- Whether a judge goes by tests that are weighted with the table, unless stopped from
judging at all. -/
def JudgesBy {σ : Type} (judge : Table Text Int → Except VerdictError Verdict)
    (tests : List (NamedTest σ)) (subject : σ) (stopped : Bool) : Prop :=
  ∀ weights : Table Text Int, weights.entries ≠ [] → ∃ advice, judge weights =
    if stopped then .error .emptyPath
    else Verdict.ofEvaluation (Evaluation.ofSignals (NamedTest.weigh weights tests) subject) advice

namespace JudgesBy

variable {σ : Type} {judge : Table Text Int → Except VerdictError Verdict}
  {tests : List (NamedTest σ)} {subject : σ} {stopped : Bool}
  (judges : JudgesBy judge tests subject stopped) (tagged : NamedTest.Tagged tests subject)

include judges tagged

theorem states {weights : Table Text Int} {v : Verdict} (nonempty : weights.entries ≠ [])
    (judged : judge weights = .ok v) :
    v.reasons = (NamedTest.hits tests subject).map NamedTest.reasonOf ∧
      v.suggestions = (NamedTest.hits tests subject).filterMap (fun h => given h.2.suggestion) ∧
      v.score = auditedScore weights v.reasons ∧ v.classification = .ofScore v.score := by
  obtain ⟨advice, same⟩ := judges weights nonempty
  rw [same] at judged
  split_ifs at judged
  obtain ⟨-, follows⟩ := Verdict.ofEvaluation_eq_ok_iff.1 judged
  have reasons := follows.reasons.trans (NamedTest.reasons_weigh weights tests subject)
  refine ⟨reasons, follows.suggestions.trans (NamedTest.suggestions_weigh weights tests subject),
    ?_, ?_⟩
  · rw [follows.score, reasons, tagged.score_eq]
  · rw [follows.classification, follows.score]

/-- The verdicts can be checked, and there is one unless its score is too large. -/
theorem auditable :
    ∃ reasons suggestions, Auditable judge reasons suggestions ∧
      ∀ weights : Table Text Int, weights.entries ≠ [] →
        ((∃ v, judge weights = .ok v) ↔
          stopped = false ∧ (auditedScore weights reasons).natAbs < Confidence.overflowBound) := by
  refine ⟨_, _, ⟨tagged.nodup_reasons, judges.states tagged, ?_⟩, ?_⟩
  · intro weights weights' v v' nonempty nonempty' raised judged judged' valid
    obtain ⟨reasons, -, score, classification⟩ := judges.states tagged nonempty judged
    obtain ⟨reasons', -, score', classification'⟩ := judges.states tagged nonempty' judged'
    rw [classification, Classification.ofScore_eq_likelyValid_iff, score, reasons] at valid
    rw [classification', Classification.ofScore_eq_likelyValid_iff, score', reasons']
    exact valid.trans_le (auditedScore_le raised _)
  · intro weights nonempty
    obtain ⟨advice, same⟩ := judges weights nonempty
    rw [same]
    cases stopped with
    | true => simp
    | false => simp [Verdict.exists_ofEvaluation_iff, tagged.score_eq]

end JudgesBy

/-- A table with weights is used as it is. -/
theorem weightsOr_of_ne_nil {defaults weights : Table Text Int} (nonempty : weights.entries ≠ []) :
    weightsOr defaults weights = weights :=
  if_neg (mt List.isEmpty_iff.1 nonempty)

/-! ## The two classifiers -/

namespace ExportClassifier

/-- The word for a framework is cut off from the reason that names it. -/
theorem tagOf_of_detect {c : ExportClassifier} {signal : ExportSignal} {f : UnusedExport}
    {hit : Hit} (fires : c.detect signal f = some hit) :
    tagOf (NamedTest.reasonOf (signal.name, hit)) = signal.name := by
  have plain {condition : Bool} (fires : Hit.when condition = some hit) :
      NamedTest.reasonOf (signal.name, hit) = signal.name := by
    cases condition with
    | false => cases fires
    | true => cases fires; rfl
  cases signal with
  | frameworkPattern =>
    obtain ⟨framework, -, rfl⟩ := Option.map_eq_some_iff.1 fires
    cases framework <;> decide
  | _ =>
    rw [plain fires]
    decide

/-- No signal looks at the weights. -/
theorem judgesBy_make (root : Option Text) (manifest : Json) (rules : Rules) (f : UnusedExport) :
    JudgesBy (fun weights => (make root manifest rules weights).classify f)
      (make root manifest rules .empty).tests f false := by
  intro weights nonempty
  have tests : (make root manifest rules weights).tests =
      (make root manifest rules .empty).tests := by
    refine congrArg (NamedTest.ofKinds ExportSignal.all ExportSignal.name) (funext fun signal => ?_)
    cases signal <;> rfl
  have table : (make root manifest rules weights).weights = weights := weightsOr_of_ne_nil nonempty
  dsimp only
  rw [classify, signals, tests, table]
  exact ⟨_, rfl⟩

end ExportClassifier

namespace ImportClassifier

theorem tagOf_of_detect {c : ImportClassifier} {signal : ImportSignal} {s : ImportSubject}
    {hit : Hit} (fires : c.detect signal s = some hit) :
    tagOf (NamedTest.reasonOf (signal.name, hit)) = signal.name := by
  have reason : NamedTest.reasonOf (signal.name, hit) = signal.name := by
    rw [NamedTest.reasonOf, reason_eq_none_of_detect fires]
    rfl
  rw [reason]
  cases signal <;> decide

theorem judgesBy_make (resolver : Option Resolver) (nodes : NodeMap) (rules : Rules)
    (extensions : List Text) (s : ImportSubject) :
    let unweighted := make resolver nodes rules .empty extensions
    JudgesBy (fun weights => (make resolver nodes rules weights extensions).classify s)
      unweighted.tests s (unweighted.meetsEmptyPath s) := by
  intro unweighted weights nonempty
  have tests : (make resolver nodes rules weights extensions).tests = unweighted.tests := by
    refine congrArg (NamedTest.ofKinds ImportSignal.all ImportSignal.name) (funext fun signal => ?_)
    cases signal <;> rfl
  have table : (make resolver nodes rules weights extensions).weights = weights :=
    weightsOr_of_ne_nil nonempty
  dsimp only
  rw [classify, signals, tests, table]
  exact ⟨_, rfl⟩

end ImportClassifier

/-- Scores can be audited. For either classifier a finding has the same reasons, each once,
and the same suggestions under every table of weights; its score is the sum of the weights
of the reasons, and larger weights leave it likely valid if it was. There is a verdict
unless the score is too large, or the only module near a misspelt one has the empty
path. -/
theorem verdicts_auditable (root : Option Text) (manifest : Json) (rules : Rules)
    (f : UnusedExport) (resolver : Option Resolver) (nodes : NodeMap) (extensions : List Text)
    (s : ImportSubject) :
    (∃ reasons suggestions,
      Auditable (fun weights => (ExportClassifier.make root manifest rules weights).classify f)
        reasons suggestions ∧
      ∀ weights : Table Text Int, weights.entries ≠ [] →
        ((∃ v, (ExportClassifier.make root manifest rules weights).classify f = .ok v) ↔
          (auditedScore weights reasons).natAbs < Confidence.overflowBound)) ∧
    ∃ reasons suggestions,
      Auditable
        (fun weights => (ImportClassifier.make resolver nodes rules weights extensions).classify s)
        reasons suggestions ∧
      ∀ weights : Table Text Int, weights.entries ≠ [] →
        ((∃ v, (ImportClassifier.make resolver nodes rules weights extensions).classify s = .ok v) ↔
          (ImportClassifier.make resolver nodes rules weights extensions).meetsEmptyPath s = false ∧
            (auditedScore weights reasons).natAbs < Confidence.overflowBound) := by
  constructor
  · have judges := ExportClassifier.judgesBy_make root manifest rules f
    have distinct : (ExportSignal.all.map ExportSignal.name).Nodup := by decide
    obtain ⟨reasons, suggestions, auditable, judged⟩ :=
      judges.auditable (NamedTest.tagged_ofKinds f distinct ExportClassifier.tagOf_of_detect)
    exact ⟨reasons, suggestions, auditable, by simpa using judged⟩
  · have judges := ImportClassifier.judgesBy_make resolver nodes rules extensions s
    exact judges.auditable
      (NamedTest.tagged_ofKinds s ImportSignal.nodup_names ImportClassifier.tagOf_of_detect)

/-- An export that nothing uses, of a component and with an outdated name. -/
def outdatedExport : UnusedExport := ⟨"/p/a.vue", "old", none⟩

/-- An outdated component, with reasons for and against it, and an import of an integration
test, before and after one weight is raised. -/
theorem verdicts_auditable_outdated :
    let weights : Table Text Int := .ofList
      [("framework-pattern", 3), ("deprecated-pattern", -2), ("integration-test-pattern", 4)]
    let weights' := weights.insert "deprecated-pattern" (-1)
    let judgeExport := fun weights =>
      (ExportClassifier.make (some "/p") .null {} weights).classify outdatedExport
    let judgeImport := fun weights =>
      (ImportClassifier.make none .empty {} weights []).classify
        ImportClassifier.misspeltTestImport.subject
    let reasons : List Text := ["framework-pattern-vue", "deprecated-pattern"]
    weights.entries ≠ [] ∧ weights'.entries ≠ [] ∧
      (∀ tag, weightOf weights tag ≤ weightOf weights' tag) ∧
      (∃ v v', judgeExport weights = .ok v ∧ judgeExport weights' = .ok v' ∧ v.reasons = reasons ∧
        v.reasons.Nodup ∧ v'.reasons = v.reasons ∧ v'.suggestions = v.suggestions ∧
        v.score = 1 ∧ v'.score = 2 ∧ v.classification = .likelyValid ∧
        v'.classification = .likelyValid) ∧
      ∃ v v', judgeImport weights = .ok v ∧ judgeImport weights' = .ok v' ∧
        v'.reasons = v.reasons ∧ v'.suggestions = v.suggestions ∧ v.score = 4 ∧ v'.score = 4 ∧
        v.classification = .likelyValid ∧ v'.classification = .likelyValid := by
  intro weights weights' judgeExport judgeImport reasons
  have nonempty : weights.entries ≠ [] := by decide
  have nonempty' : weights'.entries ≠ [] := by decide
  have raised (tag : Text) : weightOf weights tag ≤ weightOf weights' tag := by
    rw [weightOf, weightOf, Table.get?_insert]
    split_ifs with same
    · subst same
      decide
    · exact Int.le_refl _
  have evaluated : (judgeExport weights).toOption.any (fun v =>
      v.reasons = reasons ∧ v.classification = .likelyValid) = true := by
    decide +kernel
  obtain ⟨v, judged, evaluated⟩ := exists_ok_of_any_toOption evaluated
  obtain ⟨listed, valid⟩ := of_decide_eq_true evaluated
  have evaluated : (judgeImport weights).toOption.any (fun v =>
      v.reasons = [Text.ofString "integration-test-pattern"] ∧
        v.classification = .likelyValid) = true := by
    decide +kernel
  obtain ⟨u, judgedImport, evaluated⟩ := exists_ok_of_any_toOption evaluated
  obtain ⟨listedImport, validImport⟩ := of_decide_eq_true evaluated
  obtain ⟨⟨given, suggested, exports, exists_export⟩, given', suggested', imports, exists_import⟩ :=
    verdicts_auditable (some "/p") .null {} outdatedExport none .empty []
      ImportClassifier.misspeltTestImport.subject
  obtain ⟨same, -⟩ := exports.states nonempty judged
  obtain rfl : given = reasons := same.symm.trans listed
  obtain ⟨v', judged'⟩ := (exists_export weights' nonempty').2 (by decide +kernel)
  obtain ⟨reasons', suggestions', score, score'⟩ :=
    exports.agree nonempty nonempty' judged judged'
  refine ⟨nonempty, nonempty', raised, ⟨v, v', judged, judged', listed, same ▸ exports.nodup,
    reasons', suggestions', score.trans (by decide +kernel), score'.trans (by decide +kernel),
    valid, exports.raised nonempty nonempty' raised judged judged' valid⟩, ?_⟩
  obtain ⟨same, -⟩ := imports.states nonempty judgedImport
  obtain rfl := same.symm.trans listedImport
  obtain ⟨u', judgedImport'⟩ := (exists_import weights' nonempty').2 (by decide +kernel)
  obtain ⟨reasons', suggestions', score, score'⟩ :=
    imports.agree nonempty nonempty' judgedImport judgedImport'
  exact ⟨u, u', judgedImport, judgedImport', reasons', suggestions',
    score.trans (by decide +kernel), score'.trans (by decide +kernel), validImport,
    imports.raised nonempty nonempty' raised judgedImport judgedImport' validImport⟩

end ModuleAudit
