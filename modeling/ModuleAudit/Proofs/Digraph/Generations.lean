import ModuleAudit.Proofs.BackEdge.Completeness
import ModuleAudit.Proofs.Digraph.Topological

/-!
# Topological order by generations

The first generation are the nodes without predecessors. A generation is taken node by
node, and each node taken is struck off the predecessors that its successors still wait
for; a node that waits for no more joins the next generation.

At every moment a node waits for as many predecessors as have not been taken yet. So the
count comes to nothing exactly when the last predecessor is taken, and counting down
releases the nodes that a queue takes next, in the same order. What a queue takes are the
generations one after the other, and turned round they have every node behind what it
points to.
-/

namespace ModuleAudit

/-- The number of predecessors that each node still waits for, and the nodes that have
been released from waiting, in their order. -/
structure Countdown (α : Type) where
  waiting : α → Nat
  released : List α

/-- Strike one predecessor of a node off, which releases the node if it was the last. -/
def Countdown.strike {α : Type} [DecidableEq α] (c : Countdown α) (w : α) : Countdown α where
  waiting := Function.update c.waiting w (c.waiting w - 1)
  released := if c.waiting w = 1 then c.released ++ [w] else c.released

/-- Different nodes are struck independently of each other. -/
theorem Countdown.foldl_strike {α : Type} [DecidableEq α] {ws : List α} (nodup : ws.Nodup)
    (c : Countdown α) :
    ws.foldl strike c =
      { waiting := fun w => if w ∈ ws then c.waiting w - 1 else c.waiting w
        released := c.released ++ ws.filter fun w => c.waiting w = 1 } := by
  induction ws generalizing c with
  | nil => simp
  | cons w ws ih =>
    obtain ⟨fresh, nodup⟩ := List.nodup_cons.1 nodup
    have later (u : α) (hu : u ∈ ws) : (c.strike w).waiting u = c.waiting u := by
      have other : u ≠ w := fun same => fresh (same ▸ hu)
      exact Function.update_of_ne other _ _
    have released : (ws.filter fun u => (c.strike w).waiting u = 1) =
        ws.filter fun u => c.waiting u = 1 :=
      List.filter_congr fun u hu => by rw [later u hu]
    rw [List.foldl_cons, ih nodup, released]
    congr 1
    · funext u
      by_cases same : u = w
      · simp [same, fresh, strike]
      · simp [same, strike]
    · by_cases last : c.waiting w = 1 <;> simp [strike, last]

namespace Digraph

variable {α ε : Type} [DecidableEq α] {g : Digraph α ε} {taken released : List α}

/-- Take a node: strike it off for each of its successors. -/
def takeNode (g : Digraph α ε) (c : Countdown α) (v : α) : Countdown α :=
  (g.successors v).foldl Countdown.strike c

/-- A generation and those that follow it, at most `fuel` of them. Each consists of the
nodes that taking the one before it releases. -/
def generationsFrom (g : Digraph α ε) : Nat → (α → Nat) → List α → List (List α)
  | 0, _, _ => []
  | fuel + 1, waiting, generation =>
    if generation = [] then []
    else
      let next := generation.foldl g.takeNode { waiting, released := [] }
      generation :: g.generationsFrom fuel next.waiting next.released

/-- The generations of a graph, from the nodes without predecessors on. -/
def generations (g : Digraph α ε) : List (List α) :=
  g.generationsFrom g.nodes.length g.inDegree (g.nodes.filter fun v => g.inDegree v = 0)

/-! ## What a node waits for -/

/-- The number of predecessors of a node that have not been taken. -/
def missing (g : Digraph α ε) (taken : List α) (w : α) : Nat :=
  ((g.predecessors w).filter fun p => p ∉ taken).length

theorem missing_nil (g : Digraph α ε) : g.missing [] = g.inDegree := by
  funext w
  simp [missing, inDegree]

theorem missing_eq_zero_iff (w : α) :
    g.missing taken w = 0 ↔ ∀ p ∈ g.predecessors w, p ∈ taken := by
  simp [missing, List.filter_eq_nil_iff]

/-- Taking a node leaves each of its successors with one predecessor less to wait for. -/
theorem missing_concat {v : α} (untaken : v ∉ taken) (w : α) :
    g.missing (taken ++ [v]) w =
      if w ∈ g.successors v then g.missing taken w - 1 else g.missing taken w := by
  have rest : ((g.predecessors w).filter fun p => p ∉ taken ++ [v]) =
      ((g.predecessors w).filter fun p => p ∉ taken).erase v := by
    rw [((g.nodup_predecessors w).filter _).erase_eq_filter, List.filter_filter]
    refine List.filter_congr fun p _ => ?_
    by_cases same : p = v <;> simp [same]
  have among : v ∈ ((g.predecessors w).filter fun p => p ∉ taken) ↔ w ∈ g.successors v := by
    rw [List.mem_filter, mem_predecessors, mem_successors]
    simp [untaken]
  simp only [missing, rest, List.length_erase, among]

/-- A node that waits for one predecessor is released when that one is taken. -/
theorem missing_eq_one_iff {v w : α} (untaken : v ∉ taken) (hw : w ∈ g.successors v) :
    g.missing taken w = 1 ↔ ∀ p ∈ g.predecessors w, p ∈ taken ++ [v] := by
  have waits : g.missing taken w ≠ 0 := fun none => by
    have edge : v ∈ g.predecessors w := (g.mem_predecessors v w).2 ((g.mem_successors v w).1 hw)
    exact untaken ((missing_eq_zero_iff w).1 none v edge)
  rw [← missing_eq_zero_iff, missing_concat untaken, if_pos hw]
  omega

/-- Counting down releases the nodes whose predecessors have all been taken. -/
theorem takeNode_missing {v : α} (untaken : v ∉ taken) (released : List α) :
    g.takeNode { waiting := g.missing taken, released } v =
      { waiting := g.missing (taken ++ [v])
        released := released ++ (g.successors v).filter fun w =>
          (g.predecessors w).all fun p => p ∈ taken ++ [v] } := by
  have ready : ((g.successors v).filter fun w => g.missing taken w = 1) =
      (g.successors v).filter fun w => (g.predecessors w).all fun p => p ∈ taken ++ [v] := by
    refine List.filter_congr fun w hw => ?_
    rw [Bool.eq_iff_iff, decide_eq_true_eq, missing_eq_one_iff untaken hw]
    simp only [List.all_eq_true, decide_eq_true_eq]
  rw [takeNode, Countdown.foldl_strike (g.nodup_successors v), ready]
  congr 1
  funext w
  exact (missing_concat untaken w).symm

/-! ## A queue takes generation after generation -/

@[simp] theorem drain_nil (fuel : Nat) (taken : List α) : g.drain fuel [] taken = taken := by
  cases fuel <;> rfl

@[simp] theorem generationsFrom_nil (count : Nat) (waiting : α → Nat) :
    g.generationsFrom count waiting [] = [] := by
  cases count <;> rfl

/-- To take a generation from the front of the queue leaves the queue with what the
countdown releases. -/
theorem Ready.drain_generation {generation : List α} (h : g.Ready (generation ++ released) taken)
    (fuel : Nat) :
    let next := generation.foldl g.takeNode { waiting := g.missing taken, released }
    next.waiting = g.missing (taken ++ generation) ∧
      g.Ready next.released (taken ++ generation) ∧
      g.drain (generation.length + fuel) (generation ++ released) taken =
        g.drain fuel next.released (taken ++ generation) := by
  induction generation generalizing taken released with
  | nil => simpa using h
  | cons v generation ih =>
    have untaken : v ∉ taken := fun hv =>
      (List.nodup_append.1 h.nodup).2.2 v hv v List.mem_cons_self rfl
    let ready := (g.successors v).filter fun w => (g.predecessors w).all fun p => p ∈ taken ++ [v]
    have onward : g.Ready (generation ++ (released ++ ready)) (taken ++ [v]) := by
      rw [← List.append_assoc]
      exact h.take
    have step : g.drain ((v :: generation).length + fuel) (v :: generation ++ released) taken =
        g.drain (generation.length + fuel) (generation ++ (released ++ ready)) (taken ++ [v]) := by
      rw [List.length_cons, Nat.add_right_comm, ← List.append_assoc]
      rfl
    rw [List.foldl_cons, takeNode_missing untaken, step]
    simpa only [List.append_assoc, List.singleton_append] using ih onward

/-- What a queue takes are the generations, one after the other. -/
theorem Ready.drain_eq {generation : List α} (h : g.Ready generation taken) (count fuel : Nat)
    (generations : g.nodes.length ≤ count + taken.length)
    (enough : g.nodes.length ≤ fuel + taken.length) :
    g.drain fuel generation taken =
      taken ++ (g.generationsFrom count (g.missing taken) generation).flatten := by
  induction count generalizing generation taken fuel with
  | zero =>
    have none : generation = [] := List.eq_nil_of_length_eq_zero (by have := h.length_le; omega)
    simp [none]
  | succ count ih =>
    by_cases none : generation = []
    · simp [none]
    · have some : 0 < generation.length := List.length_pos_of_ne_nil none
      obtain ⟨rest, rfl⟩ : ∃ rest, fuel = generation.length + rest :=
        Nat.exists_eq_add_of_le (by have := h.length_le; omega)
      rw [← List.append_nil generation] at h
      obtain ⟨waiting, ready, drained⟩ := h.drain_generation rest
      rw [List.append_nil] at drained
      have later := ih ready rest (by rw [List.length_append]; omega)
        (by rw [List.length_append]; omega)
      rw [drained, later, generationsFrom, if_neg none, ← waiting, List.flatten_cons,
        List.append_assoc]

theorem sourcesFirst_eq (g : Digraph α ε) : g.sourcesFirst = g.generations.flatten := by
  have first : (g.nodes.filter fun v => (g.predecessors v).isEmpty) =
      g.nodes.filter fun v => g.inDegree v = 0 :=
    List.filter_congr fun v _ => by
      rw [Bool.eq_iff_iff, List.isEmpty_iff, decide_eq_true_eq, inDegree, List.length_eq_zero_iff]
  have drained := (Ready.start g).drain_eq g.nodes.length g.nodes.length
    (Nat.le_add_right _ _) (Nat.le_add_right _ _)
  rw [missing_nil, first, List.nil_append] at drained
  rw [sourcesFirst, first, drained, generations]

/-! ## The order -/

/-- There is a cycle unless the graph is acyclic. -/
theorem exists_isCycle_iff (g : Digraph α ε) :
    (∃ walk, Walk.IsCycle g.Links walk) ↔ ¬ Acyclic g.Links := by
  constructor
  · rintro ⟨walk, cycle⟩ acyclic
    exact Acyclic.iff_forall_not_isClosed.1 acyclic walk cycle.toIsClosed
  · intro cyclic
    rw [← mem_successors_eq_links, ← BackEdge.cycles_eq_nil_iff g.lists_successors] at cyclic
    obtain ⟨walk, found⟩ := List.exists_mem_of_ne_nil _ cyclic
    refine ⟨walk, ?_⟩
    rw [← mem_successors_eq_links]
    exact BackEdge.isCycle_of_mem_cycles g.nodes_nodup found

/-- An edge from a node to itself is a cycle. -/
theorem isCycle_loop {v : α} (loop : g.hasEdge v v = true) : Walk.IsCycle g.Links [v, v] where
  two_le := by simp
  returns := rfl
  linked := List.isChain_pair.2 loop
  nodup := by simp

theorem topologicalOrder?_eq_some_iff (order : List α) :
    g.topologicalOrder? = some order ↔ g.isAcyclic = true ∧ order = g.sourcesFirst.reverse := by
  rw [topologicalOrder?]
  split <;> simp [*, eq_comm]

/-- There is no order exactly when there is a cycle, of which an edge from a node to itself
is one. Otherwise the order is that of the generations, the last one first: it has every
node once, and has what a node points to before the node. -/
theorem ordered_unless_cyclic (g : Digraph α ε) :
    (g.topologicalOrder? = none ↔ ∃ walk, Walk.IsCycle g.Links walk) ∧
      ∀ order, g.topologicalOrder? = some order →
        order = g.generations.flatten.reverse ∧ order.Nodup ∧ (∀ v, v ∈ order ↔ v ∈ g.nodes) ∧
          ∀ importer imported, g.hasEdge importer imported = true →
            [imported, importer].Sublist order := by
  constructor
  · rw [exists_isCycle_iff, ← isSome_topologicalOrder?_iff, Option.not_isSome_iff_eq_none]
  · intro order found
    obtain ⟨acyclic, rfl⟩ := (topologicalOrder?_eq_some_iff order).1 found
    have all := (isAcyclic_iff_perm g).1 acyclic
    refine ⟨by rw [sourcesFirst_eq], List.nodup_reverse.2 g.nodup_sourcesFirst, fun v => ?_,
      fun importer imported link => ?_⟩
    · rw [List.mem_reverse, all.mem_iff]
    · have taken : imported ∈ g.sourcesFirst := all.mem_iff.2 (Links.mem_nodes link).2
      exact (g.ready_sourcesFirst.ordered importer imported link taken).reverse

/-- A module imports two others, one of which imports the other and a third. -/
def layered : Digraph Nat Unit := ofPairs [(0, 1), (0, 2), (2, 1), (2, 3)]

theorem ordered_unless_cyclic_layered :
    layered.topologicalOrder? = some [3, 1, 2, 0] ∧ layered.generations = [[0], [2], [1, 3]] ∧
      [1, 2].Sublist [3, 1, 2, 0] ∧ (ofPairs [(0, 1), (1, 1)]).topologicalOrder? = none := by
  have found : layered.topologicalOrder? = some [3, 1, 2, 0] := by decide
  obtain ⟨-, orders⟩ := ordered_unless_cyclic layered
  obtain ⟨-, -, -, before⟩ := orders _ found
  exact ⟨found, by decide, before 2 1 (by decide),
    (ordered_unless_cyclic _).1.2 ⟨[1, 1], isCycle_loop (by decide)⟩⟩

end Digraph

end ModuleAudit
