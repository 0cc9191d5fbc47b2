import Mathlib.Data.List.Nodup
import ModuleAudit.Classify.Import
import ModuleAudit.Proofs.Signal

/-!
# What the signals about imports say

Each signal about imports gives its own name as the reason, and four of them
suggest something: one says that the import is expected, the others how to correct
it. `Suggests` lists what can be suggested and when. All that is said here about
the lists of an evaluation is read off from it.
-/

namespace ModuleAudit

/-- The sentence that suggests another spelling. -/
def didYouMean (spelling : Text) : Text := "Did you mean '" ++ spelling ++ "'?"

theorem didYouMean_injective : Function.Injective didYouMean := by
  intro a b same
  exact List.append_cancel_left (List.append_cancel_right same)

theorem ImportSignal.mem_all (signal : ImportSignal) : signal ∈ all := by
  cases signal <;> decide

theorem ImportSignal.nodup_names : (all.map name).Nodup := by decide

theorem ImportSignal.name_injective : Function.Injective name :=
  fun a b same => List.inj_on_of_nodup_map nodup_names a.mem_all b.mem_all same

namespace ImportClassifier

/-- What a signal suggests about an import if it fires. -/
def suggestion? (c : ImportClassifier) (signal : ImportSignal) (s : ImportSubject) :
    Option Text :=
  (c.detect signal s).bind fun hit => given hit.suggestion

/-- The suggestions of the signals, with the conditions under which they make them. -/
inductive Suggests (c : ImportClassifier) (s : ImportSubject) : ImportSignal → Text → Prop
  | expected (test : isIntegrationTest s = true) :
      Suggests c s .integrationTestPattern "Expected - integration test importing built package"
  | spelling {spelling : Text} (likely : c.likelySpelling s = some spelling) :
      Suggests c s .possibleTypo (didYouMean spelling)
  | sources {directory : Text} (other : isIntegrationTest s = false)
      (built : directoryIn s.specifier buildDirectories = some directory) :
      Suggests c s .improperBuildImport
        ("Import from source files instead of " ++ directory ++ "/")
  | extension {extension : Text} {others : List Text}
      (extensions : c.extensions = extension :: others) (unnamed : given s.name = none)
      (bare : Path.extension (Path.base s.specifier) = []) :
      Suggests c s .missingExtension ("Try '" ++ s.specifier ++ extension ++ "'")

variable {c : ImportClassifier} {s : ImportSubject} {signal : ImportSignal} {text : Text}

theorem suggestion?_eq_some_iff :
    c.suggestion? signal s = some text ↔ Suggests c s signal text := by
  have silent (condition : Bool) :
      ((Hit.when condition).bind fun hit => given hit.suggestion) = none := by
    cases condition <;> rfl
  constructor
  · intro suggested
    cases signal with
    | integrationTestPattern =>
      rw [suggestion?, detect] at suggested
      split at suggested
      · rename_i test
        cases suggested
        exact .expected test
      · cases suggested
    | possibleTypo =>
      rw [suggestion?, detect] at suggested
      obtain ⟨hit, fires, suggests⟩ := Option.bind_eq_some_iff.1 suggested
      obtain ⟨spelling, likely, rfl⟩ := Option.map_eq_some_iff.1 fires
      cases suggests
      exact .spelling likely
    | improperBuildImport =>
      rw [suggestion?, detect] at suggested
      split at suggested
      · cases suggested
      · rename_i other
        obtain ⟨hit, fires, suggests⟩ := Option.bind_eq_some_iff.1 suggested
        obtain ⟨directory, built, rfl⟩ := Option.map_eq_some_iff.1 fires
        cases suggests
        exact .sources (Bool.eq_false_iff.2 other) built
    | missingExtension =>
      rw [suggestion?, detect] at suggested
      split at suggested
      · cases suggested
      · rename_i extension others extensions
        split at suggested
        · rename_i bare
          rw [Bool.and_eq_true, Option.isNone_iff_eq_none, List.isEmpty_iff] at bare
          cases suggested
          exact .extension extensions bare.1 bare.2
        · cases suggested
    | _ =>
      rw [suggestion?, detect, silent] at suggested
      cases suggested
  · intro suggests
    cases suggests with
    | expected test => rw [suggestion?, detect, if_pos test]; rfl
    | spelling likely => rw [suggestion?, detect, likely]; rfl
    | sources other built => rw [suggestion?, detect, other, built]; rfl
    | extension extensions unnamed bare =>
      rw [suggestion?, detect, extensions, unnamed, bare]
      rfl

/-- No signal about imports has a reason other than its name. -/
theorem reason_eq_none_of_detect {hit : Hit} (fires : c.detect signal s = some hit) :
    hit.reason = none := by
  have plain {condition : Bool} (fires : Hit.when condition = some hit) : hit.reason = none := by
    cases condition with
    | false => cases fires
    | true => cases fires; rfl
  cases signal with
  | integrationTestPattern =>
    rw [detect] at fires
    split at fires <;> cases fires
    rfl
  | possibleTypo =>
    obtain ⟨spelling, -, rfl⟩ := Option.map_eq_some_iff.1 fires
    rfl
  | improperBuildImport =>
    rw [detect] at fires
    split at fires
    · cases fires
    · obtain ⟨directory, -, rfl⟩ := Option.map_eq_some_iff.1 fires
      rfl
  | missingExtension =>
    rw [detect] at fires
    split at fires
    · cases fires
    · split at fires <;> cases fires
      rfl
  | _ => exact plain fires

def weighted (c : ImportClassifier) (signal : ImportSignal) : Signal ImportSubject where
  name := signal.name
  weight := weightOf c.weights signal.name
  detect := c.detect signal

theorem fired_signals :
    Signal.fired c.signals s = ImportSignal.all.filterMap fun signal =>
      (c.detect signal s).map fun hit => (c.weighted signal, hit) := by
  rw [Signal.fired, signals, NamedTest.weigh, tests, NamedTest.ofKinds, List.filterMap_map,
    List.filterMap_map]
  rfl

/-- A signal is among the reasons exactly when it fires. -/
theorem name_mem_reasons_iff :
    signal.name ∈ (Evaluation.ofSignals c.signals s).reasons ↔ (c.detect signal s).isSome := by
  have reason {signal : ImportSignal} {hit : Hit} (fires : c.detect signal s = some hit) :
      Signal.reasonOf (c.weighted signal, hit) = signal.name := by
    rw [Signal.reasonOf, reason_eq_none_of_detect fires]
    rfl
  simp only [Evaluation.reasons_ofSignals, fired_signals, List.mem_map, List.mem_filterMap,
    Option.map_eq_some_iff]
  constructor
  · rintro ⟨_, ⟨other, -, hit, fires, rfl⟩, named⟩
    rw [← ImportSignal.name_injective ((reason fires).symm.trans named), fires]
    rfl
  · intro fires
    obtain ⟨hit, fires⟩ := Option.isSome_iff_exists.1 fires
    exact ⟨_, ⟨signal, signal.mem_all, hit, fires, rfl⟩, reason fires⟩

theorem suggestions_signals :
    (Evaluation.ofSignals c.signals s).suggestions =
      ImportSignal.all.filterMap fun signal => c.suggestion? signal s := by
  rw [Evaluation.suggestions_ofSignals, fired_signals, List.filterMap_filterMap]
  refine List.filterMap_congr fun signal _ => ?_
  rw [suggestion?]
  cases c.detect signal s <;> rfl

theorem corrections_signals :
    (Evaluation.ofSignals c.signals s).corrections = ImportSignal.all.filterMap fun signal =>
      if weightOf c.weights signal.name < 0 then c.suggestion? signal s else none := by
  rw [Evaluation.corrections_ofSignals, fired_signals, List.filter_filterMap,
    List.filterMap_filterMap]
  refine List.filterMap_congr fun signal _ => ?_
  rw [suggestion?]
  cases c.detect signal s with
  | none => split <;> rfl
  | some hit =>
    rw [Option.map_some, Option.filter_some]
    simp only [decide_eq_true_eq]
    change (if weightOf c.weights signal.name < 0 then _ else _ : Option _).bind _ = _
    split <;> rfl

theorem mem_suggestions_iff :
    text ∈ (Evaluation.ofSignals c.signals s).suggestions ↔ ∃ signal, Suggests c s signal text := by
  simp only [suggestions_signals, List.mem_filterMap, suggestion?_eq_some_iff,
    ImportSignal.mem_all, true_and]

/-- A correction is the suggestion of a signal that weighs less than nothing. -/
theorem mem_corrections_iff :
    text ∈ (Evaluation.ofSignals c.signals s).corrections ↔
      ∃ signal, weightOf c.weights signal.name < 0 ∧ Suggests c s signal text := by
  simp only [corrections_signals, List.mem_filterMap, ImportSignal.mem_all, true_and,
    Option.ite_none_right_eq_some, suggestion?_eq_some_iff]

/-- A verdict follows the evaluation of the signals. -/
theorem follows_of_classify {v : Verdict} (judged : c.classify s = .ok v) :
    v.Follows (Evaluation.ofSignals c.signals s) (advice (Evaluation.ofSignals c.signals s) s) := by
  unfold classify at judged
  split at judged
  · cases judged
  · exact (Verdict.ofEvaluation_eq_ok_iff.1 judged).2

end ImportClassifier

end ModuleAudit
