import ModuleAudit.Cycle.Analysis
import ModuleAudit.Digraph.BackEdge
import ModuleAudit.Digraph.Reach
import ModuleAudit.Digraph.Topological
import ModuleAudit.Log

/-!
# Inspection of a graph

The cycles and the strongly connected components of a graph, in the order in
which reports list them. An inspection keeps what it found last, so a graph that
has changed since is only looked at again on request.
-/

namespace ModuleAudit

namespace Digraph

variable {ε : Type}

/-- The closed paths that the back edges of a search close. -/
def closedPaths (g : Digraph Text ε) : List (List Text) :=
  (BackEdge.cyclesOfAdjacency g.adjacency).map (List.map fun number => g.nodes.getD number [])

/-- The cycles of a graph, one closed canonical path for each. -/
def cycles (g : Digraph Text ε) : List (List Text) := Cycle.distinct g.closedPaths

/-- Whether a component holds a cycle. A single node does only when an edge leads
from it to itself. -/
def holdsCycle (g : Digraph Text ε) (component : List Text) : Bool :=
  1 < component.length || component.any fun v => g.hasEdge v v

/-- The strongly connected components that hold a cycle, each in order, in the
order of their members. -/
def cyclicComponents (g : Digraph Text ε) : List (List Text) :=
  ((g.components.filter g.holdsCycle).map Text.sort).mergeSort fun a b =>
    !listBefore Text.before b a

end Digraph

/-- A graph with what was last found in it. -/
structure Inspection (ε : Type) where
  graph : Digraph Text ε
  cycles : List (List Text) := []
  components : List (List Text) := []
  details : Option (List (CycleDetail ε)) := none

structure InspectionSummary (ε : Type) where
  nodeCount : Nat
  edgeCount : Nat
  isAcyclic : Bool
  details : List (CycleDetail ε)
  components : List (List Text)
  largestComponent : Nat

namespace Inspection

variable {ε : Type}

def detectCycles (i : Inspection ε) : Inspection ε :=
  let cycles := i.graph.cycles
  { i with cycles, details := some (Cycle.details i.graph cycles) }

def findComponents (i : Inspection ε) : Inspection ε :=
  { i with components := i.graph.cyclicComponents }

/-- Find the components and the cycles. -/
def inspect (i : Inspection ε) : Inspection ε := i.findComponents.detectCycles

/-- The cycles that were described last. -/
def known (i : Inspection ε) : List (CycleDetail ε) := i.details.getD []

/-- What was found last, as a whole. -/
def summary (i : Inspection ε) : InspectionSummary ε where
  nodeCount := i.graph.nodes.length
  edgeCount := i.graph.edges.length
  isAcyclic := i.cycles.isEmpty
  details := i.known
  components := i.components
  largestComponent := (i.components.map List.length).foldl max 0

end Inspection

namespace Digraph

variable {ε : Type}

/-- The lines that looking for cycles and components logs. -/
def cycleJournal (g : Digraph Text ε) : List LogLine :=
  [.info .cycles ("Found " ++ toString g.cycles.length ++ " cycles in dependency graph (" ++
      toString g.closedPaths.length ++ " before deduplication)"),
    .info .cycles ("Found " ++ toString g.cyclicComponents.length ++
      " significant strongly connected components")]

end Digraph

end ModuleAudit
