import ModuleAudit.Digraph.Basic

/-!
# Topological order

Nodes are taken from a queue that first holds the nodes without predecessors. A
node joins the end of the queue as soon as its last predecessor is taken, so
nodes on a cycle never join, and all nodes are taken exactly when there is no
cycle.
-/

namespace ModuleAudit.Digraph

variable {α ε : Type} [DecidableEq α]

/-- Take nodes from the queue, at most `fuel` of them. `taken` are the nodes
taken so far, in order. -/
def drain (g : Digraph α ε) : Nat → List α → List α → List α
  | 0, _, taken => taken
  | _ + 1, [], taken => taken
  | fuel + 1, v :: queue, taken =>
    let taken := taken ++ [v]
    let ready := (g.successors v).filter fun w => (g.predecessors w).all fun p => p ∈ taken
    drain g fuel (queue ++ ready) taken

/-- The nodes that can be taken, sources first. -/
def sourcesFirst (g : Digraph α ε) : List α :=
  g.drain g.nodes.length (g.nodes.filter fun v => (g.predecessors v).isEmpty) []

def isAcyclic (g : Digraph α ε) : Bool := g.sourcesFirst.length == g.nodes.length

/-- The nodes in an order in which every edge leads backwards, if there is one:
what a node points to comes before it. -/
def topologicalOrder? (g : Digraph α ε) : Option (List α) :=
  if g.isAcyclic then some g.sourcesFirst.reverse else none

end ModuleAudit.Digraph
