import ModuleAudit.Decimal.Binary64
import ModuleAudit.Table
import ModuleAudit.Text.Basic

/-!
# Signals and verdicts

A classifier is a list of independent signals. A signal that fires adds its
weight to the score and gives a reason; the score is the plain sum, and its sign
is the verdict. The confidence grows with the size of the score and stops at one.

The confidence is a quotient of the score by ten in double precision. It does
not exist for scores so large that the quotient overflows, and this is the only
way in which a verdict can fail.
-/

namespace ModuleAudit

/-- A signal that fired. Without a reason of its own the signal's name is the
reason. -/
structure Hit where
  reason : Option Text := none
  suggestion : Option Text := none
deriving DecidableEq, Repr

def Hit.when (condition : Bool) : Option Hit := if condition then some {} else none

/-- A weighted test of a subject. -/
structure Signal (σ : Type) where
  name : Text
  weight : Int
  detect : σ → Option Hit

/-- What the signals say about a subject. `corrections` are the suggestions of
signals with a negative weight. -/
structure Evaluation where
  score : Int
  reasons : List Text
  suggestions : List Text
  corrections : List Text
deriving DecidableEq, Repr

namespace Evaluation

def empty : Evaluation := ⟨0, [], [], []⟩

def add {σ : Type} (e : Evaluation) (signal : Signal σ) (hit : Hit) : Evaluation :=
  let suggestion := (given hit.suggestion).toList
  { score := e.score + signal.weight
    reasons := e.reasons ++ [(given hit.reason).getD signal.name]
    suggestions := e.suggestions ++ suggestion
    corrections := e.corrections ++ (if signal.weight < 0 then suggestion else []) }

/-- Let every signal look at the subject, in order. -/
def ofSignals {σ : Type} (signals : List (Signal σ)) (subject : σ) : Evaluation :=
  signals.foldl
    (fun e signal =>
      match signal.detect subject with
      | some hit => e.add signal hit
      | none => e)
    empty

end Evaluation

/-- The weight of a signal; names without a weight weigh nothing. -/
def weightOf (weights : Table Text Int) (name : Text) : Int := (weights.get? name).getD 0

/-- A table of weights, unless it is empty and the default table takes its place. -/
def weightsOr (defaults weights : Table Text Int) : Table Text Int :=
  if weights.entries.isEmpty then defaults else weights

abbrev NamedTest (σ : Type) := Text × (σ → Option Hit)

namespace NamedTest

variable {κ σ : Type}

def ofKinds (kinds : List κ) (name : κ → Text) (detect : κ → σ → Option Hit) :
    List (NamedTest σ) :=
  kinds.map fun kind => (name kind, detect kind)

/-- The signals that a table of weights makes of tests. -/
def weigh (weights : Table Text Int) (tests : List (NamedTest σ)) : List (Signal σ) :=
  tests.map fun t => { name := t.1, weight := weightOf weights t.1, detect := t.2 }

theorem mem_weigh_ofKinds {kinds : List κ} {kind : κ} (known : kind ∈ kinds) (name : κ → Text)
    (weights : Table Text Int) (detect : κ → σ → Option Hit) :
    { name := name kind, weight := weightOf weights (name kind), detect := detect kind } ∈
      weigh weights (ofKinds kinds name detect) :=
  List.mem_map_of_mem (List.mem_map_of_mem known)

end NamedTest

/-- Whether a finding is probably intended or probably a problem. -/
inductive Classification where
  | likelyValid
  | likelyProblematic
deriving DecidableEq, Repr

namespace Classification

/-- Only a positive score speaks for a finding. -/
def ofScore (score : Int) : Classification :=
  if score > 0 then .likelyValid else .likelyProblematic

def name : Classification → Text
  | .likelyValid => "likely-valid"
  | .likelyProblematic => "likely-problematic"

end Classification

/-- A confidence in tenths, at most one. -/
structure Confidence where
  tenths : Nat
  le_ten : tenths ≤ 10
deriving DecidableEq, Repr

/-- Why there is no verdict. -/
inductive VerdictError where
  | scoreOverflow
  | emptyPath
deriving DecidableEq, Repr

def VerdictError.message : VerdictError → Text
  | .scoreOverflow => "integer division result too large for a float"
  | .emptyPath => "no path specified"

namespace Confidence

/-- The confidence in a score, if there is a double for its tenth. -/
def ofScore (score : Int) : Except VerdictError Confidence :=
  match Binary64.ofRatio false score.natAbs 10 with
  | .infinite _ => .error .scoreOverflow
  | _ => .ok ⟨min score.natAbs 10, Nat.min_le_right _ _⟩

end Confidence

/-- What a classifier says about a finding. -/
structure Verdict where
  classification : Classification
  score : Int
  confidence : Confidence
  reasons : List Text
  suggestion : Text
  suggestions : List Text
deriving DecidableEq, Repr

namespace Verdict

/-- The verdict of an evaluation, with the advice given for it. -/
def ofEvaluation (e : Evaluation) (suggestion : Text) : Except VerdictError Verdict := do
  let confidence ← Confidence.ofScore e.score
  return {
    classification := .ofScore e.score
    score := e.score
    confidence
    reasons := e.reasons
    suggestion
    suggestions := e.suggestions }

def isProblematic (v : Verdict) : Bool := v.classification = .likelyProblematic

end Verdict

/-- The message of the first listed reason that is among the reasons. -/
def firstMatching (reasons : List Text) (precedence : List (Text × Text)) :
    Option Text :=
  (precedence.find? fun p => reasons.contains p.1).map Prod.snd

end ModuleAudit
