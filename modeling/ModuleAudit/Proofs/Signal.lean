import ModuleAudit.Proofs.Decimal.Overflow
import ModuleAudit.Signal

/-!
# What the signals say together

The signals look at a subject one after the other, and an evaluation grows with
each that fires. In the end it lists their reasons and suggestions in the order of
the signals, and among the corrections those of the signals that weigh less than
nothing.

A verdict repeats what its evaluation says. It exists unless the score is too large
for a confidence.
-/

namespace ModuleAudit

variable {σ : Type}

namespace Signal

/-- The signals that fire at a subject, each with its hit, in order. -/
def fired (signals : List (Signal σ)) (subject : σ) : List (Signal σ × Hit) :=
  signals.filterMap fun signal => (signal.detect subject).map fun hit => (signal, hit)

def reasonOf (f : Signal σ × Hit) : Text := (given f.2.reason).getD f.1.name

def suggestionOf (f : Signal σ × Hit) : Option Text := given f.2.suggestion

end Signal

namespace Evaluation

open Signal

theorem ofSignals_eq_foldl (signals : List (Signal σ)) (subject : σ) :
    ofSignals signals subject =
      (fired signals subject).foldl (fun e f => e.add f.1 f.2) empty := by
  rw [ofSignals, fired, List.foldl_filterMap]
  congr 1
  funext e signal
  cases signal.detect subject <;> rfl

/-- Signals that fire add their reasons, their suggestions and, with a negative
weight, their corrections behind those that are there. -/
theorem lists_foldl_add (hits : List (Signal σ × Hit)) (e : Evaluation) :
    let e' := hits.foldl (fun e f => e.add f.1 f.2) e
    e'.reasons = e.reasons ++ hits.map reasonOf ∧
      e'.suggestions = e.suggestions ++ hits.filterMap suggestionOf ∧
      e'.corrections =
        e.corrections ++ (hits.filter fun f => f.1.weight < 0).filterMap suggestionOf := by
  induction hits generalizing e with
  | nil => simp
  | cons f rest ih =>
    obtain ⟨reasons, suggestions, corrections⟩ := ih (e.add f.1 f.2)
    have behind (texts : List Text) :
        (given f.2.suggestion).toList ++ texts = (suggestionOf f).toList ++ texts := rfl
    refine ⟨?_, ?_, ?_⟩
    · rw [List.foldl_cons, reasons, add, List.append_assoc]
      rfl
    · rw [List.foldl_cons, suggestions, add, List.append_assoc, behind, List.filterMap_cons]
      cases suggestionOf f <;> rfl
    · rw [List.foldl_cons, corrections, add, List.append_assoc, List.filter_cons]
      by_cases negative : f.1.weight < 0
      · rw [if_pos negative, behind, if_pos (decide_eq_true negative), List.filterMap_cons]
        cases suggestionOf f <;> rfl
      · rw [if_neg negative, if_neg (by simpa using negative), List.nil_append]

/-- Signals that fire add their weights to the score. -/
theorem score_foldl_add (hits : List (Signal σ × Hit)) (e : Evaluation) :
    (hits.foldl (fun e f => e.add f.1 f.2) e).score =
      e.score + (hits.map fun f => f.1.weight).sum := by
  induction hits generalizing e with
  | nil => simp
  | cons f rest ih =>
    rw [List.foldl_cons, ih, List.map_cons, List.sum_cons]
    show e.score + f.1.weight + _ = _
    omega

variable (signals : List (Signal σ)) (subject : σ)

theorem score_ofSignals :
    (ofSignals signals subject).score =
      ((fired signals subject).map fun f => f.1.weight).sum := by
  rw [ofSignals_eq_foldl, score_foldl_add]
  exact Int.zero_add _

theorem reasons_ofSignals :
    (ofSignals signals subject).reasons = (fired signals subject).map reasonOf := by
  rw [ofSignals_eq_foldl, (lists_foldl_add _ _).1]
  rfl

theorem suggestions_ofSignals :
    (ofSignals signals subject).suggestions = (fired signals subject).filterMap suggestionOf := by
  rw [ofSignals_eq_foldl, (lists_foldl_add _ _).2.1]
  rfl

theorem corrections_ofSignals :
    (ofSignals signals subject).corrections =
      ((fired signals subject).filter fun f => f.1.weight < 0).filterMap suggestionOf := by
  rw [ofSignals_eq_foldl, (lists_foldl_add _ _).2.2]
  rfl

end Evaluation

namespace Confidence

/-- The first score whose tenth has no double. -/
def overflowBound : Nat := 10 * (Nat.pow 2 1024 - Nat.pow 2 970)

theorem overflowBound_le_iff (score : Int) :
    overflowBound ≤ score.natAbs ↔ Binary64.ofRatio false score.natAbs 10 = .infinite false := by
  rw [Binary64.ofRatio_eq_infinite_iff false (by decide), overflowBound]

theorem ofScore_eq (score : Int) :
    ofScore score = if overflowBound ≤ score.natAbs then .error .scoreOverflow
      else .ok ⟨min score.natAbs 10, Nat.min_le_right _ _⟩ := by
  have overflow := overflowBound_le_iff score
  rw [ofScore]
  split
  · rename_i sign infinite
    rw [if_pos (overflow.2 (Binary64.eq_of_ofRatio_eq_infinite infinite ▸ infinite))]
  · rename_i finite
    rw [if_neg fun le => finite false (overflow.1 le)]

end Confidence

namespace Verdict

/-- Whether a verdict says what an evaluation says, with the advice given for it. -/
structure Follows (v : Verdict) (e : Evaluation) (advice : Text) : Prop where
  classification : v.classification = .ofScore e.score
  score : v.score = e.score
  confidence : v.confidence.tenths = min e.score.natAbs 10
  reasons : v.reasons = e.reasons
  suggestion : v.suggestion = advice
  suggestions : v.suggestions = e.suggestions

variable {e : Evaluation} {advice : Text}

/-- An evaluation has a verdict exactly when its score has a confidence. -/
theorem ofEvaluation_eq_ok_iff {v : Verdict} :
    ofEvaluation e advice = .ok v ↔
      e.score.natAbs < Confidence.overflowBound ∧ v.Follows e advice := by
  rw [ofEvaluation, Confidence.ofScore_eq]
  split
  · rename_i overflow
    constructor
    · intro judged
      cases judged
    · rintro ⟨below, -⟩
      exact absurd below (Nat.not_lt.2 overflow)
  · rename_i below
    constructor
    · intro judged
      cases judged
      exact ⟨Nat.lt_of_not_le below, rfl, rfl, rfl, rfl, rfl, rfl⟩
    · rintro ⟨-, follows⟩
      obtain ⟨classification, score, ⟨tenths, le_ten⟩, reasons, suggestion, suggestions⟩ := v
      obtain ⟨rfl, rfl, rfl, rfl, rfl, rfl⟩ := follows
      rfl

theorem ofEvaluation_eq_error_iff {error : VerdictError} :
    ofEvaluation e advice = .error error ↔
      error = .scoreOverflow ∧ Confidence.overflowBound ≤ e.score.natAbs := by
  rw [ofEvaluation, Confidence.ofScore_eq]
  split
  · rename_i overflow
    constructor
    · intro failed
      cases failed
      exact ⟨rfl, overflow⟩
    · rintro ⟨rfl, -⟩
      rfl
  · rename_i below
    constructor
    · intro failed
      cases failed
    · rintro ⟨-, overflow⟩
      exact absurd overflow below

theorem exists_ofEvaluation_iff :
    (∃ v, ofEvaluation e advice = .ok v) ↔ e.score.natAbs < Confidence.overflowBound := by
  constructor
  · rintro ⟨v, judged⟩
    exact (ofEvaluation_eq_ok_iff.1 judged).1
  · intro below
    cases judged : ofEvaluation e advice with
    | error error => exact absurd below (Nat.not_lt.2 (ofEvaluation_eq_error_iff.1 judged).2)
    | ok v => exact ⟨v, rfl⟩

end Verdict

end ModuleAudit
