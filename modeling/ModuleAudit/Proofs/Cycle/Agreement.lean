import Mathlib.Tactic.TFAE
import ModuleAudit.Proofs.Cycle.Reported
import ModuleAudit.Proofs.Digraph.Reach
import ModuleAudit.Proofs.Digraph.Topological

/-!
# The analyses of a graph agree

The cycles, the components, the test for cycles and the topological order of a
graph are computed in four different ways. All of them are tied to reachability
along links: the members of a reported cycle reach each other, so they share a
component; and a component holds a closed walk, of which some edge closes a
reported cycle, whose members then lie in the same component.
-/

namespace ModuleAudit

namespace Cycle

/-- The closed canonical form of a cycle has the members of the cycle. -/
theorem mem_close_canonical {r : Text → Text → Prop} {c : List Text} (h : Walk.IsCycle r c)
    (v : Text) : v ∈ close (canonical c) ↔ v ∈ c := by
  obtain ⟨nonempty, cycle, rotated⟩ := isCycle_close_canonical h
  have opened {d : List Text} (hd : Walk.IsCycle r d) : v ∈ d ↔ v ∈ d.dropLast := by
    obtain ⟨w, inner, rfl⟩ := hd.exists_eq
    simp [or_comm]
  rw [opened cycle, opened h, dropLast_close nonempty, rotated.mem_iff]

end Cycle

namespace Digraph

variable {ε : Type} {g : Digraph Text ε}

/-- The nodes of a closed walk are connected to each other. -/
theorem connected_of_isClosed {walk : List Text} (h : Walk.IsClosed g.Links walk) {v w : Text}
    (hv : v ∈ walk) (hw : w ∈ walk) : g.Connected v w :=
  ⟨(h.transGen hv hw).to_reflTransGen, (h.transGen hw hv).to_reflTransGen⟩

/-- Every closed walk takes a step between two members of one reported cycle. -/
theorem exists_step_of_isClosed {walk : List Text} (closed : Walk.IsClosed g.Links walk) :
    ∃ e ∈ Walk.steps walk, ∃ c ∈ g.cycles, e.1 ∈ c ∧ e.2 ∈ c := by
  obtain ⟨e, closing, taken⟩ :=
    BackEdge.exists_closingStep_mem_steps g.lists_successors (g.mem_successors_eq_links ▸ closed)
  rw [← closedPaths_eq] at closing
  obtain ⟨d, hd, last⟩ := List.mem_filterMap.1 closing
  have cycle := isCycle_of_mem_closedPaths hd
  obtain ⟨source, target⟩ := Walk.mem_of_mem_steps (Walk.mem_steps_of_lastStep last)
  exact ⟨e, taken, _, mem_cycles_iff.2 ⟨d, hd, rfl⟩,
    (Cycle.mem_close_canonical cycle e.1).2 source, (Cycle.mem_close_canonical cycle e.2).2 target⟩

/-- Every closed walk meets a reported cycle. -/
theorem exists_mem_cycles_of_isClosed {walk : List Text} (h : Walk.IsClosed g.Links walk) :
    ∃ c ∈ g.cycles, ∃ v ∈ walk, v ∈ c := by
  obtain ⟨e, taken, c, hc, source, -⟩ := exists_step_of_isClosed h
  exact ⟨c, hc, e.1, (Walk.mem_of_mem_steps taken).1, source⟩

/-- A component holds a cycle exactly when one of its nodes reaches itself. -/
theorem holdsCycle_iff {k : List Text} (hk : k ∈ g.components) :
    g.holdsCycle k = true ↔ ∃ v ∈ k, Relation.TransGen g.Links v v := by
  have returns := (isClass_of_mem_components hk).exists_returns_iff (nodup_of_mem_components hk)
  rw [holdsCycle, Bool.or_eq_true, decide_eq_true_eq, List.any_eq_true]
  constructor
  · rintro (many | ⟨v, hv, loop⟩)
    · exact returns.2 (.inl many)
    · exact ⟨v, hv, .single loop⟩
  · intro found
    obtain many | ⟨v, rfl, loop⟩ := returns.1 found
    · exact .inl many
    · exact .inr ⟨v, List.mem_singleton_self v, loop⟩

/-- The listed components are those that hold a cycle, each put in order. -/
theorem mem_cyclicComponents_iff {k : List Text} :
    k ∈ g.cyclicComponents ↔ ∃ c ∈ g.components, g.holdsCycle c = true ∧ Text.sort c = k := by
  simp only [cyclicComponents, List.mem_mergeSort, List.mem_map, List.mem_filter, and_assoc]

theorem exists_of_mem_cyclicComponents {k : List Text} (hk : k ∈ g.cyclicComponents) :
    ∃ v, Relation.TransGen g.Links v v ∧ ∀ w, w ∈ k ↔ g.Connected v w := by
  obtain ⟨c, hc, holds, rfl⟩ := mem_cyclicComponents_iff.1 hk
  obtain ⟨v, hv, returns⟩ := (holdsCycle_iff hc).1 holds
  refine ⟨v, returns, fun w => ?_⟩
  rw [Text.sort, List.mem_mergeSort, (isClass_of_mem_components hc).mem_iff hv]

theorem exists_mem_cyclicComponents {v : Text} (returns : Relation.TransGen g.Links v v) :
    ∃ k ∈ g.cyclicComponents, ∀ w, w ∈ k ↔ g.Connected v w := by
  obtain ⟨u, link, -⟩ := Relation.TransGen.head'_iff.1 returns
  obtain ⟨c, hc, members⟩ := exists_mem_components link.mem_nodes.1
  have holds := (holdsCycle_iff hc).2 ⟨v, (members v).2 (.refl g v), returns⟩
  refine ⟨_, mem_cyclicComponents_iff.2 ⟨c, hc, holds, rfl⟩, fun w => ?_⟩
  rw [Text.sort, List.mem_mergeSort, members]

/-- The members of the components are the nodes that reach themselves. -/
theorem exists_mem_cyclicComponents_iff_returns {v : Text} :
    (∃ k ∈ g.cyclicComponents, v ∈ k) ↔ Relation.TransGen g.Links v v := by
  constructor
  · rintro ⟨k, hk, member⟩
    obtain ⟨w, returns, members⟩ := exists_of_mem_cyclicComponents hk
    obtain ⟨forth, back⟩ := (members v).1 member
    exact .trans_right back (returns.trans_left forth)
  · intro returns
    obtain ⟨k, hk, members⟩ := exists_mem_cyclicComponents returns
    exact ⟨k, hk, (members v).2 (.refl g v)⟩

/-- The members of a reported cycle lie in one component. -/
theorem exists_component_of_mem_cycles {c : List Text} (hc : c ∈ g.cycles) :
    ∃ k ∈ g.cyclicComponents, ∀ v ∈ c, v ∈ k := by
  have closed := (isReport_of_mem_cycles hc).toIsClosed
  obtain ⟨first, inner, rfl⟩ := closed.exists_eq
  obtain ⟨k, hk, members⟩ :=
    exists_mem_cyclicComponents (closed.transGen (a := first) (b := first) (by simp) (by simp))
  exact ⟨k, hk, fun v hv => (members v).2 (connected_of_isClosed closed (by simp) hv)⟩

/-- A component holds all members of some reported cycle. -/
theorem exists_cycle_of_mem_cyclicComponents {k : List Text} (hk : k ∈ g.cyclicComponents) :
    ∃ c ∈ g.cycles, ∀ v ∈ c, v ∈ k := by
  obtain ⟨v, returns, members⟩ := exists_of_mem_cyclicComponents hk
  obtain ⟨walk, closed, onWalk⟩ := exists_isClosed_of_transGen returns
  obtain ⟨c, hc, u, u_walk, u_cycle⟩ := exists_mem_cycles_of_isClosed closed
  refine ⟨c, hc, fun w hw => (members w).2 ?_⟩
  have toCycle : g.Connected v u := connected_of_isClosed closed onWalk u_walk
  have alongCycle : g.Connected u w :=
    connected_of_isClosed (isReport_of_mem_cycles hc).toIsClosed u_cycle hw
  exact toCycle.trans alongCycle

/-- No cycle is reported exactly when there is none. -/
theorem cycles_eq_nil_iff_acyclic (g : Digraph Text ε) : g.cycles = [] ↔ Acyclic g.Links := by
  constructor
  · intro nothing
    refine Acyclic.iff_forall_not_isClosed.2 fun walk closed => ?_
    obtain ⟨c, hc, -⟩ := exists_mem_cycles_of_isClosed closed
    simp [nothing] at hc
  · intro acyclic
    refine List.eq_nil_iff_forall_not_mem.2 fun c hc => ?_
    exact Acyclic.iff_forall_not_isClosed.1 acyclic c (isReport_of_mem_cycles hc).toIsClosed

/-- There is a component exactly when there is a reported cycle. -/
theorem cyclicComponents_eq_nil_iff (g : Digraph Text ε) :
    g.cyclicComponents = [] ↔ g.cycles = [] := by
  constructor
  · intro nothing
    refine List.eq_nil_iff_forall_not_mem.2 fun c hc => ?_
    obtain ⟨k, hk, -⟩ := exists_component_of_mem_cycles hc
    simp [nothing] at hk
  · intro nothing
    refine List.eq_nil_iff_forall_not_mem.2 fun k hk => ?_
    obtain ⟨c, hc, -⟩ := exists_cycle_of_mem_cyclicComponents hk
    simp [nothing] at hc

end Digraph

namespace Inspection

variable {ε : Type}

theorem cycles_detectCycles (i : Inspection ε) : i.detectCycles.cycles = i.graph.cycles := by
  simp only [detectCycles]

theorem components_findComponents (i : Inspection ε) :
    i.findComponents.components = i.graph.cyclicComponents := by
  simp only [findComponents]

theorem isAcyclic_inspect (i : Inspection ε) :
    i.inspect.summary.isAcyclic = i.graph.cycles.isEmpty := by
  simp only [summary, inspect, detectCycles, findComponents]

/-- A reported cycle lies in one of the components, each component holds a
reported cycle, and all ways to tell whether there is a cycle give the same
answer. -/
theorem analyses_agree (i : Inspection ε) :
    (∀ c ∈ i.detectCycles.cycles, ∃ k ∈ i.findComponents.components, ∀ v ∈ c, v ∈ k) ∧
      (∀ k ∈ i.findComponents.components, ∃ c ∈ i.detectCycles.cycles, ∀ v ∈ c, v ∈ k) ∧
      List.TFAE [i.detectCycles.cycles = [], i.findComponents.components = [],
        i.graph.isAcyclic = true, i.graph.topologicalOrder? ≠ none,
        i.inspect.summary.isAcyclic = true] := by
  rw [cycles_detectCycles, components_findComponents, isAcyclic_inspect]
  refine ⟨fun c hc => Digraph.exists_component_of_mem_cycles hc,
    fun k hk => Digraph.exists_cycle_of_mem_cyclicComponents hk, ?_⟩
  have cycles := i.graph.cycles_eq_nil_iff_acyclic
  tfae_have 2 ↔ 1 := i.graph.cyclicComponents_eq_nil_iff
  tfae_have 3 ↔ 1 := i.graph.isAcyclic_iff.trans cycles.symm
  tfae_have 4 ↔ 1 := by
    rw [← Option.isSome_iff_ne_none, i.graph.isSome_topologicalOrder?_iff]
    exact cycles.symm
  tfae_have 5 ↔ 1 := List.isEmpty_iff
  tfae_finish

/-- A triangle and a pair of nodes share a corner, and a node only leads to them. -/
theorem analyses_agree_shared_corner :
    let g : Digraph Text Unit := Digraph.ofPairs
      [("e", "b"), ("b", "a"), ("a", "c"), ("c", "b"), ("c", "d"), ("d", "c")]
    let i : Inspection Unit := { graph := g }
    i.detectCycles.cycles ≠ [] ∧
      (∃ k ∈ i.findComponents.components, ∀ v ∈ (["a", "c", "b", "a"] : List Text), v ∈ k) ∧
      i.graph.isAcyclic = false := by
  intro g i
  have found : (["a", "c", "b", "a"] : List Text) ∈ i.detectCycles.cycles := by decide
  obtain ⟨within, -, agree⟩ := analyses_agree i
  have cyclic : i.detectCycles.cycles ≠ [] := List.ne_nil_of_mem found
  refine ⟨cyclic, within _ found, Bool.eq_false_iff.2 fun acyclic => cyclic ?_⟩
  exact (agree.out 2 0).1 acyclic

end Inspection

end ModuleAudit
