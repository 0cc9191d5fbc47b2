import ModuleAudit.Proofs.Classify.Suggestion
import ModuleAudit.Proofs.Traversal

/-!
# Advice and verdict

Advice either reassures or asks for a change, and no sentence does both: the two
kinds begin with different letters. An import with a positive score is reassured
about. For any other score the first correction is the advice, and a correction asks
for a change unless it is the sentence of the signal for integration tests. That
signal reassures, and its sentence is a correction when it has been given a negative
weight.
-/

namespace ModuleAudit

theorem Classification.ofScore_eq_likelyValid_iff {score : Int} :
    ofScore score = .likelyValid ↔ 0 < score := by
  unfold ofScore
  split <;> simp_all

theorem Classification.ofScore_eq_likelyProblematic_iff {score : Int} :
    ofScore score = .likelyProblematic ↔ ¬ 0 < score := by
  unfold ofScore
  split <;> simp_all

namespace ImportClassifier

/-! ## Two kinds of advice -/

/-- Whether advice says that an import is as intended. -/
def reassures (advice : Text) : Bool :=
  Text.begins "Expected - " advice || advice = "Likely intentional"

/-- How advice begins that asks for a change. -/
def correctionOpenings : List Text :=
  ["Did you mean ", "Try ", "Import from source files ", "Review needed "]

/-- Whether advice asks for a change. -/
def corrects (advice : Text) : Bool :=
  correctionOpenings.any fun opening => Text.begins opening advice

theorem corrects_append (opening rest : Text) (listed : opening ∈ correctionOpenings) :
    corrects (opening ++ rest) = true :=
  List.any_eq_true.2 ⟨opening, listed, Text.begins_append opening rest⟩

/-- The letters with which reassurance begins. -/
theorem head?_of_reassures {advice : Text} (kind : reassures advice = true) :
    advice.head? ∈ [some (CodePoint.ofChar 'E'), some (CodePoint.ofChar 'L')] := by
  rw [reassures, Bool.or_eq_true, decide_eq_true_eq] at kind
  rcases kind with expected | rfl
  · rw [Text.head?_of_begins expected (by decide)]
    decide
  · decide

/-- Advice that asks for a change does not reassure. -/
theorem reassures_eq_false_of_corrects {advice : Text} (kind : corrects advice = true) :
    reassures advice = false := by
  obtain ⟨opening, listed, begins⟩ := List.any_eq_true.1 kind
  have letters : ∀ opening ∈ correctionOpenings, opening ≠ [] ∧
      opening.head? ∉ [some (CodePoint.ofChar 'E'), some (CodePoint.ofChar 'L')] := by decide
  obtain ⟨nonempty, other⟩ := letters opening listed
  rw [Bool.eq_false_iff]
  intro both
  exact other (Text.head?_of_begins begins nonempty ▸ head?_of_reassures both)

theorem corrects_eq_false_of_reassures {advice : Text} (kind : reassures advice = true) :
    corrects advice = false := by
  rw [Bool.eq_false_iff]
  intro both
  rw [reassures_eq_false_of_corrects both] at kind
  cases kind

/-! ## Advice for each verdict -/

variable {c : ImportClassifier} {s : ImportSubject}

theorem reassures_of_positive {e : Evaluation} (s : ImportSubject) (positive : 0 < e.score) :
    reassures (advice e s) = true := by
  rw [advice, if_pos positive]
  cases matching : firstMatching e.reasons expectedReasons with
  | none => decide
  | some message =>
    obtain ⟨pair, found, rfl⟩ := Option.map_eq_some_iff.1 matching
    have messages : ∀ pair ∈ expectedReasons, reassures pair.2 = true := by decide +kernel
    exact messages pair (List.mem_of_find?_eq_some found)

/-- Apart from the signal for integration tests, whatever signals suggest asks for a
change. -/
theorem Suggests.corrects {signal : ImportSignal} {text : Text}
    (suggests : Suggests c s signal text) (other : signal ≠ .integrationTestPattern) :
    corrects text = true := by
  cases suggests with
  | expected test => exact absurd rfl other
  | spelling likely => exact corrects_append "Did you mean " _ (by simp [correctionOpenings])
  | sources own built =>
    exact corrects_append "Import from source files " _ (by simp [correctionOpenings])
  | extension extensions unnamed bare =>
    exact corrects_append "Try " _ (by simp [correctionOpenings])

/-- The signal for integration tests comes before all others that suggest something. -/
theorem corrections_of_isIntegrationTest (test : isIntegrationTest s = true)
    (negative : weightOf c.weights "integration-test-pattern" < 0) :
    ∃ rest, (Evaluation.ofSignals c.signals s).corrections =
      Text.ofString "Expected - integration test importing built package" :: rest := by
  have silent : c.suggestion? .ignoredByConfig s = none := by
    rw [Option.eq_none_iff_forall_ne_some]
    intro text suggested
    cases suggestion?_eq_some_iff.1 suggested
  have reassurance : c.suggestion? .integrationTestPattern s =
      some (Text.ofString "Expected - integration test importing built package") :=
    suggestion?_eq_some_iff.2 (.expected test)
  have weighs : weightOf c.weights ImportSignal.integrationTestPattern.name < 0 := negative
  rw [corrections_signals, ImportSignal.all, List.filterMap_cons, silent, ite_self,
    List.filterMap_cons, if_pos weighs, reassurance]
  exact ⟨_, rfl⟩

/-- Without a positive score, an import is reassured about exactly when it is one of
an integration test and the signal for these has a negative weight. -/
theorem kind_of_not_positive (problem : ¬ 0 < (Evaluation.ofSignals c.signals s).score) :
    let text := advice (Evaluation.ofSignals c.signals s) s
    if isIntegrationTest s = true ∧ weightOf c.weights "integration-test-pattern" < 0 then
      text = "Expected - integration test importing built package"
    else corrects text = true := by
  intro text
  split
  · rename_i expected
    obtain ⟨rest, corrections⟩ := corrections_of_isIntegrationTest expected.1 expected.2
    simp only [text, advice, if_neg problem, corrections]
  · rename_i unexpected
    simp only [text, advice, if_neg problem]
    split
    · rename_i correction rest corrections
      obtain ⟨signal, negative, suggests⟩ :=
        mem_corrections_iff.1 (corrections ▸ List.mem_cons_self)
      refine suggests.corrects ?_
      rintro rfl
      cases suggests with
      | expected test => exact unexpected ⟨test, negative⟩
    · split
      · exact corrects_append "Review needed " _ (by simp [correctionOpenings])
      · decide

/-- The advice on an import agrees with the verdict on it, but for one exception. What
is likely valid is reassured about and not corrected. What is likely a problem is
corrected and not reassured about, unless it is an import of an integration test and
the signal for these has been given a negative weight. -/
theorem advice_agrees_with_verdict (c : ImportClassifier) (s : ImportSubject) {v : Verdict}
    (judged : c.classify s = .ok v) :
    (v.classification = .likelyValid →
      reassures v.suggestion = true ∧ corrects v.suggestion = false) ∧
    (v.classification = .likelyProblematic →
      v.suggestion ≠ "Likely intentional" ∧
      (reassures v.suggestion = true ↔
        isIntegrationTest s = true ∧ weightOf c.weights "integration-test-pattern" < 0) ∧
      corrects v.suggestion = !reassures v.suggestion) := by
  have follows := follows_of_classify judged
  rw [follows.classification, follows.suggestion, Classification.ofScore_eq_likelyValid_iff,
    Classification.ofScore_eq_likelyProblematic_iff]
  constructor
  · intro positive
    have kind := reassures_of_positive s positive
    exact ⟨kind, corrects_eq_false_of_reassures kind⟩
  · intro problem
    have kind := kind_of_not_positive problem
    dsimp only at kind
    split at kind
    · rename_i expected
      rw [kind]
      exact ⟨by decide, iff_of_true (by decide) expected, by decide⟩
    · rename_i unexpected
      have calm := reassures_eq_false_of_corrects kind
      refine ⟨?_, ?_, by rw [kind, calm]; rfl⟩
      · intro intentional
        rw [intentional] at calm
        exact absurd calm (by decide)
      · rw [calm]
        exact iff_of_false Bool.false_ne_true unexpected

def twoModules : Resolver :=
  .ofPaths ["/project/src/index.js", "/project/src/app.js"] (some "/project") defaultExtensions
    defaultDataExtensions

/-- An import of an integration test that names build output and is misspelt. -/
def misspeltTestImport : UnresolvedImport :=
  ⟨"/project/test/package.integration.js", "../dist/indx.js", none⟩

/-- The signals for an integration test and for a misspelling cancel out, and the
misspelling is corrected. -/
theorem advice_agrees_with_verdict_cancelling :
    let c := make (some twoModules) .empty {} .empty defaultExtensions
    ∃ v, c.classify misspeltTestImport.subject = .ok v ∧ v.score = 0 ∧
      v.classification = .likelyProblematic ∧ v.suggestion = didYouMean "../src/index.js" ∧
      ¬ (isIntegrationTest misspeltTestImport.subject = true ∧
        weightOf c.weights "integration-test-pattern" < 0) ∧
      reassures v.suggestion = false ∧ corrects v.suggestion = true := by
  intro c
  have evaluated : (c.classify misspeltTestImport.subject).toOption.any (fun v =>
      v.score = 0 ∧ v.classification = .likelyProblematic ∧
        v.suggestion = didYouMean "../src/index.js") = true := by
    decide +kernel
  obtain ⟨v, judged, evaluated⟩ := exists_ok_of_any_toOption evaluated
  obtain ⟨score, problem, suggestion⟩ := of_decide_eq_true evaluated
  have unexpected : ¬ (isIntegrationTest misspeltTestImport.subject = true ∧
      weightOf c.weights "integration-test-pattern" < 0) := by
    decide +kernel
  obtain ⟨-, reassured, corrected⟩ := (advice_agrees_with_verdict c _ judged).2 problem
  have calm : reassures v.suggestion = false := Bool.eq_false_iff.2 (mt reassured.1 unexpected)
  rw [calm] at corrected
  exact ⟨v, judged, score, problem, suggestion, unexpected, calm, corrected⟩

/-- An import of an integration test is likely a problem once the signal for these has
a negative weight, and it is still called expected. -/
theorem advice_reassures_about_problem :
    let weights : Table Text Int := .ofList [("integration-test-pattern", -10)]
    ∃ v, (make none .empty {} weights defaultExtensions).classify misspeltTestImport.subject =
        .ok v ∧
      v.classification = .likelyProblematic ∧
      v.suggestion = "Expected - integration test importing built package" ∧
      Text.begins "Expected - " v.suggestion = true := by
  intro weights
  have evaluated : ((make none .empty {} weights defaultExtensions).classify
      misspeltTestImport.subject).toOption.any (fun v : Verdict =>
        v.classification = .likelyProblematic ∧
        v.suggestion = "Expected - integration test importing built package" ∧
        Text.begins "Expected - " v.suggestion = true) = true := by
    decide +kernel
  obtain ⟨v, judged, evaluated⟩ := exists_ok_of_any_toOption evaluated
  exact ⟨v, judged, of_decide_eq_true evaluated⟩

end ImportClassifier

end ModuleAudit
