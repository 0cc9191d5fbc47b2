import ModuleAudit.Digraph.Basic

/-!
# Reachability

The nodes that a walk of at least one edge leads to, the strongly connected
components, and connectedness without regard to direction.

Nodes are numbered by their places, and a relation between them is kept as one
row of bits for each number. Its closure allows one number after the other as a
stop on the way; `holds_allow` says what one more stop adds.
-/

namespace ModuleAudit

/-- A relation between numbers: the bits of the `i`-th row are the numbers to
which `i` is related. -/
structure BitRelation where
  rows : List Nat

namespace BitRelation

def holds (r : BitRelation) (i j : Nat) : Bool := (r.rows.getD i 0).testBit j

/-- Join what is related by way of `k`. -/
def allow (r : BitRelation) (k : Nat) : BitRelation :=
  let onward := r.rows.getD k 0
  { rows := r.rows.map fun row => if row.testBit k then row ||| onward else row }

/-- Join what is related by way of any numbers of rows. -/
def closure (r : BitRelation) : BitRelation := (List.range r.rows.length).foldl allow r

@[simp] theorem length_rows_allow (r : BitRelation) (k : Nat) :
    (r.allow k).rows.length = r.rows.length := by
  simp [allow]

/-- One more stop adds what lies behind it to everything before it. -/
theorem holds_allow (r : BitRelation) (k i j : Nat) :
    (r.allow k).holds i j = (r.holds i j || (r.holds i k && r.holds k j)) := by
  simp only [holds, allow, List.getD_eq_getElem?_getD, List.getElem?_map]
  cases r.rows[i]? with
  | none => simp
  | some row =>
    simp only [Option.map_some, Option.getD_some]
    cases h : row.testBit k <;> simp [Nat.testBit_or]

end BitRelation

/-- A node with its number and the row of the numbers that it reaches. -/
structure Reacher (α : Type) where
  node : α
  number : Nat
  row : Nat

def Reacher.reaches {α : Type} (a b : Reacher α) : Bool := a.row.testBit b.number

/-- The row of the numbers that a node reaches, with its own number. -/
def Reacher.span {α : Type} (a : Reacher α) : Nat := a.row ||| 1 <<< a.number

namespace Digraph

variable {α ε : Type} [DecidableEq α]

/-- The numbers of some nodes as the bits of a row. -/
def rowOf (g : Digraph α ε) (targets : List α) : Nat :=
  targets.foldl (fun row w => row ||| 1 <<< g.nodes.idxOf w) 0

/-- Every node with what it reaches when `next` gives the nodes that one step
leads to. -/
def reachersBy (g : Digraph α ε) (next : α → List α) : List (Reacher α) :=
  let steps : BitRelation := { rows := g.nodes.map fun v => g.rowOf (next v) }
  (g.nodes.zip steps.closure.rows).zipIdx.map fun e => ⟨e.1.1, e.2, e.1.2⟩

/-- Every node with what it reaches by one or more edges. -/
def reachers (g : Digraph α ε) : List (Reacher α) := g.reachersBy g.successors

/-- The strongly connected components, which part the nodes: two nodes are in one
component when they span the same nodes, each counting itself. -/
def components (g : Digraph α ε) : List (List α) :=
  (g.reachers.map Reacher.span).eraseDups.map fun span =>
    (g.reachers.filter fun a => a.span = span).map Reacher.node

/-- The nodes joined to a node by an edge in either direction. -/
def neighbours (g : Digraph α ε) (v : α) : List α := g.successors v ++ g.predecessors v

/-- Whether the graph hangs together when the direction of edges is ignored. A
graph without nodes does not count as connected. -/
def isConnected (g : Digraph α ε) : Bool :=
  match g.reachersBy g.neighbours with
  | [] => false
  | first :: rest => rest.all fun other => first.reaches other

end Digraph

end ModuleAudit
