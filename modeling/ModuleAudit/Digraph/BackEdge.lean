import ModuleAudit.Table

/-!
# Back-edge search

A depth-first search with an explicit stack. Each frame of the stack holds a
node and the successors that are still to be examined; the nodes of the stack
form the current path. An edge that leads back to a node on the path closes a
cycle, and the search collects one cycle per such edge.

The search is a machine that makes one step at a time. Every step examines one
successor, leaves one node or passes one start, so the number of steps is the
number of starts, nodes and edges, and `budget` counts exactly those that
remain.
-/

namespace ModuleAudit.BackEdge

variable {α : Type} [DecidableEq α]

/-- A node on the stack with its successors that are not yet examined. -/
structure Frame (α : Type) where
  node : α
  pending : List α

/-- The state of a search. `fresh` are the nodes not yet visited, `path` the
nodes from the start of the current tree to the current node, and `position`
the place of each of them on the path. -/
structure Search (α : Type) where
  starts : List α
  fresh : List α
  stack : List (Frame α)
  path : List α
  position : Table α Nat
  cycles : List (List α)

namespace Search

def start (nodes : List α) : Search α where
  starts := nodes
  fresh := nodes
  stack := []
  path := []
  position := .empty
  cycles := []

/-- Visit a node: it leaves the fresh ones and becomes the end of the path. -/
def visit (succ : α → List α) (s : Search α) (v : α) : Search α :=
  { s with
    fresh := s.fresh.erase v
    stack := ⟨v, succ v⟩ :: s.stack
    path := s.path ++ [v]
    position := s.position.insert v s.path.length }

def leave (s : Search α) (v : α) (below : List (Frame α)) : Search α :=
  { s with
    stack := below
    path := s.path.dropLast
    position := s.position.erase v }

/-- Examine one successor of the current node: visit it if it is fresh, and
record the closed cycle if it is on the path. -/
def examine (succ : α → List α) (s : Search α) (v : α) : Search α :=
  if v ∈ s.fresh then s.visit succ v
  else
    match s.position.get? v with
    | some place => { s with cycles := s.cycles ++ [s.path.drop place ++ [v]] }
    | none => s

/-- One step of the search, or none when it is over. -/
def step (succ : α → List α) (s : Search α) : Option (Search α) :=
  match s.stack with
  | [] =>
    match s.starts with
    | [] => none
    | v :: starts =>
      let s := { s with starts }
      some (if v ∈ s.fresh then s.visit succ v else s)
  | ⟨v, []⟩ :: below => some (s.leave v below)
  | ⟨v, w :: pending⟩ :: below =>
    some ({ s with stack := ⟨v, pending⟩ :: below }.examine succ w)

/-- The number of steps that remain: one per start, one per frame and pending
successor, and one per fresh node and successor of a fresh node. -/
def budget (succ : α → List α) (s : Search α) : Nat :=
  s.starts.length + s.stack.length + (s.stack.flatMap fun frame => frame.pending).length +
    s.fresh.length + (s.fresh.flatMap succ).length

/-- Make at most `fuel` steps. -/
def run (succ : α → List α) : Nat → Search α → Search α
  | 0, s => s
  | fuel + 1, s =>
    match s.step succ with
    | none => s
    | some next => run succ fuel next

end Search

/-- The cycles that the back edges of a search close, in the order of their
discovery. Each is a closed path. -/
def cycles (succ : α → List α) (nodes : List α) : List (List α) :=
  let s := Search.start nodes
  (s.run succ (s.budget succ)).cycles

/-- The cycles of a graph given by the successors of the nodes 0, 1, 2 and so
on. -/
def cyclesOfAdjacency (adjacency : List (List Nat)) : List (List Nat) :=
  cycles (fun v => adjacency.getD v []) (List.range adjacency.length)

end ModuleAudit.BackEdge
