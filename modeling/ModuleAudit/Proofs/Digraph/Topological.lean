import ModuleAudit.Digraph.Topological
import ModuleAudit.Proofs.Digraph.Links

/-!
# Topological orders are computed correctly

`Ready` is the invariant of the queue: what has been taken or waits in the queue
are exactly the nodes whose predecessors have all been taken, and each node taken
comes after its predecessors. A node becomes ready when the last of them is taken
and not before, so it joins the queue once.

When the queue is empty, a node that has not been taken has a predecessor that
has not been taken either. In an acyclic graph there is no such node, and if all
nodes are taken their order shows that the graph is acyclic.
-/

namespace ModuleAudit.Digraph

variable {α ε : Type} [DecidableEq α] {g : Digraph α ε} {queue taken : List α}

/-- What has been taken and what waits are the nodes whose predecessors have been
taken, each once, and what has been taken is in order. -/
structure Ready (g : Digraph α ε) (queue taken : List α) : Prop where
  nodup : (taken ++ queue).Nodup
  mem_iff : ∀ w, w ∈ taken ++ queue ↔ w ∈ g.nodes ∧ ∀ v, g.Links v w → v ∈ taken
  ordered : ∀ v w, g.Links v w → w ∈ taken → [v, w].Sublist taken

namespace Ready

theorem start (g : Digraph α ε) :
    g.Ready (g.nodes.filter fun v => (g.predecessors v).isEmpty) [] where
  nodup := g.nodes_nodup.filter _
  mem_iff := by
    intro w
    simp [List.mem_filter, List.isEmpty_iff, List.eq_nil_iff_forall_not_mem, mem_predecessors,
      Links]
  ordered := by simp

/-- The nodes that become ready when a node is taken. -/
theorem mem_ready_iff (v w : α) :
    w ∈ (g.successors v).filter (fun w => (g.predecessors w).all fun p => p ∈ taken ++ [v]) ↔
      g.Links v w ∧ ∀ p, g.Links p w → p ∈ taken ++ [v] := by
  simp only [List.mem_filter, mem_successors, List.all_eq_true, decide_eq_true_eq,
    mem_predecessors, Links]

/-- Taking a node from the front of the queue keeps the invariant. -/
theorem take {v : α} (h : g.Ready (v :: queue) taken) :
    g.Ready (queue ++ (g.successors v).filter fun w =>
      (g.predecessors w).all fun p => p ∈ taken ++ [v]) (taken ++ [v]) := by
  have untaken : v ∉ taken := fun hv =>
    (List.nodup_append.1 h.nodup).2.2 v hv v List.mem_cons_self rfl
  refine ⟨?_, fun w => ?_, ?_⟩
  · rw [← List.append_assoc, List.append_assoc taken, List.singleton_append]
    refine List.nodup_append.2 ⟨h.nodup, (g.nodup_successors v).filter _, ?_⟩
    rintro w old _ new rfl
    -- a node that was ready before has no predecessor left to take
    have before := ((h.mem_iff w).1 old).2 v (mem_ready_iff v w |>.1 new).1
    exact untaken before
  · rw [← List.append_assoc, List.append_assoc taken, List.singleton_append, List.mem_append,
      h.mem_iff, mem_ready_iff]
    constructor
    · rintro (⟨node, ready⟩ | ⟨link, ready⟩)
      · exact ⟨node, fun p hp => List.mem_append_left _ (ready p hp)⟩
      · exact ⟨link.mem_nodes.2, ready⟩
    · rintro ⟨node, ready⟩
      by_cases link : g.Links v w
      · exact .inr ⟨link, ready⟩
      · refine .inl ⟨node, fun p hp => ?_⟩
        refine (List.mem_append.1 (ready p hp)).resolve_right fun last => ?_
        exact link (List.mem_singleton.1 last ▸ hp)
  · intro p w link hw
    rcases List.mem_append.1 hw with hw | hw
    · exact (h.ordered p w link hw).trans (List.sublist_append_left _ _)
    · rw [List.mem_singleton.1 hw] at link ⊢
      have taken_before := ((h.mem_iff v).1 (by simp)).2 p link
      exact pair_sublist_append taken_before (by simp)

/-- No more nodes are taken or wait than there are. -/
theorem length_le (h : g.Ready queue taken) :
    taken.length + queue.length ≤ g.nodes.length := by
  rw [← List.length_append]
  exact (h.nodup.subperm fun w hw => ((h.mem_iff w).1 hw).1).length_le

/-- With fuel for all nodes the queue is emptied. -/
theorem drain (fuel : Nat) (h : g.Ready queue taken)
    (enough : g.nodes.length ≤ fuel + taken.length) : g.Ready [] (g.drain fuel queue taken) := by
  induction fuel generalizing queue taken with
  | zero =>
    have empty : queue = [] := List.eq_nil_of_length_eq_zero (by have := h.length_le; omega)
    exact empty ▸ h
  | succ fuel ih =>
    cases queue with
    | nil => exact h
    | cons v queue =>
      refine ih h.take ?_
      rw [List.length_append, List.length_singleton]
      omega

end Ready

theorem ready_sourcesFirst (g : Digraph α ε) : g.Ready [] g.sourcesFirst :=
  (Ready.start g).drain g.nodes.length (Nat.le_add_right _ _)

theorem mem_sourcesFirst_iff (w : α) :
    w ∈ g.sourcesFirst ↔ w ∈ g.nodes ∧ ∀ v, g.Links v w → v ∈ g.sourcesFirst := by
  simpa using g.ready_sourcesFirst.mem_iff w

theorem nodup_sourcesFirst (g : Digraph α ε) : g.sourcesFirst.Nodup := by
  simpa using g.ready_sourcesFirst.nodup

/-- All nodes have been taken exactly when as many as there are have been. -/
theorem isAcyclic_iff_perm (g : Digraph α ε) :
    g.isAcyclic = true ↔ g.sourcesFirst.Perm g.nodes := by
  have subperm : g.sourcesFirst.Subperm g.nodes :=
    g.nodup_sourcesFirst.subperm fun w hw => ((mem_sourcesFirst_iff w).1 hw).1
  rw [isAcyclic, beq_iff_eq]
  exact ⟨fun same => subperm.perm_of_length_le same.ge, List.Perm.length_eq⟩

/-- In an acyclic graph every node is taken. -/
theorem subset_sourcesFirst_of_acyclic (acyclic : Acyclic g.Links) :
    g.nodes ⊆ g.sourcesFirst := by
  let missing := g.nodes.filter fun v => v ∉ g.sourcesFirst
  have mem_missing (v : α) : v ∈ missing ↔ v ∈ g.nodes ∧ v ∉ g.sourcesFirst := by
    simp [missing, List.mem_filter]
  intro v node
  by_contra untaken
  have some_missing : missing ≠ [] := List.ne_nil_of_mem ((mem_missing v).2 ⟨node, untaken⟩)
  -- a missing node that no missing node leads to would have been taken
  obtain ⟨w, hw, source⟩ := acyclic.exists_source some_missing
  obtain ⟨node, untaken⟩ := (mem_missing w).1 hw
  refine untaken ((mem_sourcesFirst_iff w).2 ⟨node, fun p link => ?_⟩)
  by_contra hp
  exact source p ((mem_missing p).2 ⟨link.mem_nodes.1, hp⟩) link

/-- The test for cycles tells whether there is one. -/
theorem isAcyclic_iff (g : Digraph α ε) : g.isAcyclic = true ↔ Acyclic g.Links := by
  rw [isAcyclic_iff_perm]
  constructor
  · intro perm
    refine .of_order g.nodup_sourcesFirst fun v w link => ?_
    exact g.ready_sourcesFirst.ordered v w link (perm.mem_iff.2 link.mem_nodes.2)
  · intro acyclic
    refine (List.perm_ext_iff_of_nodup g.nodup_sourcesFirst g.nodes_nodup).2 fun w => ?_
    exact ⟨fun hw => ((mem_sourcesFirst_iff w).1 hw).1,
      fun hw => subset_sourcesFirst_of_acyclic acyclic hw⟩

/-- There is an order exactly when there is no cycle. -/
theorem isSome_topologicalOrder?_iff (g : Digraph α ε) :
    g.topologicalOrder?.isSome = true ↔ Acyclic g.Links := by
  rw [← isAcyclic_iff, topologicalOrder?]
  split <;> simp [*]

end ModuleAudit.Digraph
