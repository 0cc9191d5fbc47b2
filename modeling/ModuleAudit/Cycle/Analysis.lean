import ModuleAudit.Cycle.Canonical
import ModuleAudit.Digraph.Basic

/-!
# Analysis of cycles

Each cycle of a graph is described by its severity and by the edges at which it
can be broken. A short cycle is worse than a long one. An edge is the cheaper to
remove the fewer edges lead to its target; the breaking points of a cycle are
listed from cheap to expensive, and in the order of the cycle where they cost
the same.
-/

namespace ModuleAudit

inductive Severity where
  | low
  | medium
  | high
  | critical
deriving DecidableEq, Repr

namespace Severity

def ofLength (length : Int) : Severity :=
  if length = 1 then .critical
  else if length = 2 then .high
  else if length ≤ 5 then .medium
  else .low

def name : Severity → Text
  | .low => "low"
  | .medium => "medium"
  | .high => "high"
  | .critical => "critical"

def summary : Severity → Text
  | .critical => "Module imports itself"
  | .high => "Two modules import each other"
  | .medium => "Short import cycle that should be refactored"
  | .low => "Long import cycle spanning many modules"

def advice : Severity → Text
  | .critical => "Remove the self-import"
  | .high => "Extract the shared code of both modules into a new module"
  | .medium => "Invert one dependency or move shared code into a lower layer"
  | .low => "Review the module layering along this chain"

end Severity

/-- How much depends on the target of an edge. -/
inductive Impact where
  | low
  | medium
  | high
deriving DecidableEq, Repr

namespace Impact

/-- The impact for a number of edges that lead to the target. -/
def ofDependents (n : Nat) : Impact :=
  if n ≤ 1 then .low else if n ≤ 3 then .medium else .high

def name : Impact → Text
  | .low => "low"
  | .medium => "medium"
  | .high => "high"

/-- Impacts from cheap to expensive. -/
def rank : Impact → Nat
  | .low => 0
  | .medium => 1
  | .high => 2

end Impact

/-- An edge at which a cycle can be broken. -/
structure BreakingPoint (ε : Type) where
  source : Text
  target : Text
  label : ε
  impact : Impact

structure CycleDetail (ε : Type) where
  id : Nat
  cycle : List Text
  breakingPoints : List (BreakingPoint ε)

namespace CycleDetail

variable {ε : Type}

/-- The number of edges of the closed path. -/
def length (d : CycleDetail ε) : Int := (d.cycle.length : Int) - 1

def severity (d : CycleDetail ε) : Severity := .ofLength d.length

def description (d : CycleDetail ε) : Text :=
  d.severity.summary ++ ": " ++ List.intercalate " -> " d.cycle

end CycleDetail

namespace Cycle

variable {ε : Type}

/-- The edge behind a step, if the graph has it. -/
def breakingPoint? (g : Digraph Text ε) (step : Text × Text) : Option (BreakingPoint ε) :=
  (g.label? step.1 step.2).map fun label =>
    { source := step.1, target := step.2, label, impact := .ofDependents (g.inDegree step.2) }

/-- The edges at which a closed path can be broken, cheap ones first. -/
def breakingPoints (g : Digraph Text ε) (cycle : List Text) : List (BreakingPoint ε) :=
  ((Walk.steps cycle).filterMap (breakingPoint? g)).mergeSort
    fun p q => p.impact.rank ≤ q.impact.rank

/-- Number the cycles and describe each. -/
def details (g : Digraph Text ε) (cycles : List (List Text)) : List (CycleDetail ε) :=
  cycles.zipIdx.map fun (cycle, id) => { id, cycle, breakingPoints := breakingPoints g cycle }

def countOf (severity : Severity) (details : List (CycleDetail ε)) : Nat :=
  details.countP fun d => d.severity = severity

/-- The modules on the cycles, in order and each once. -/
def affected (details : List (CycleDetail ε)) : List Text :=
  Text.sort (details.flatMap CycleDetail.cycle).eraseDups

end Cycle

end ModuleAudit
