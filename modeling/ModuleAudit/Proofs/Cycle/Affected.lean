import ModuleAudit.Proofs.Cycle.Agreement

/-!
# Modules on reported cycles

The affected modules are the members of the reported cycles. They lie on cycles of
the graph, but a module on a cycle need not be one of them: a search reports the
cycles that its back edges close, and from a module that it enters late the way
back may lead through one that it has left already.

What the back edges do give is an edge between two affected modules on every
closed walk, so no component goes without.
-/

namespace ModuleAudit

namespace Cycle

variable {ε : Type} {g : Digraph Text ε} {cycles : List (List Text)}

theorem map_cycle_details (g : Digraph Text ε) (cycles : List (List Text)) :
    (details g cycles).map CycleDetail.cycle = cycles := by
  rw [details, List.map_map]
  exact List.zipIdx_map_fst 0 cycles

theorem mem_affected_iff {v : Text} :
    v ∈ affected (details g cycles) ↔ ∃ c ∈ cycles, v ∈ c := by
  rw [affected, Text.sort, List.mem_mergeSort, List.mem_eraseDups, List.flatMap_def,
    map_cycle_details, List.mem_flatten]

/-- The affected modules are listed in order, each once. -/
theorem pairwise_affected (details : List (CycleDetail ε)) :
    (affected details).Pairwise fun v w => v.codes < w.codes :=
  Text.pairwise_sort (nodup_eraseDups _)

end Cycle

namespace Digraph

variable {ε : Type} {g : Digraph Text ε}

/-- The members of the components are the nodes on closed walks. -/
theorem exists_mem_cyclicComponents_iff {v : Text} :
    (∃ k ∈ g.cyclicComponents, v ∈ k) ↔ ∃ walk, Walk.IsClosed g.Links walk ∧ v ∈ walk := by
  rw [exists_mem_cyclicComponents_iff_returns]
  constructor
  · exact exists_isClosed_of_transGen
  · rintro ⟨walk, closed, onWalk⟩
    exact closed.transGen onWalk onWalk

end Digraph

namespace Inspection

variable {ε : Type}

/-- The affected modules are those of the reported cycles, in order and each once.
They lie in components, whose members are the modules on closed walks, and every
closed walk leads from one affected module directly to another, so that every
component has some. -/
theorem affected_meets_every_cycle (i : Inspection ε) :
    let affected := Cycle.affected i.detectCycles.known
    let components := i.findComponents.components
    (affected.Pairwise fun v w => v.codes < w.codes) ∧
      (∀ v, v ∈ affected ↔ ∃ c ∈ i.detectCycles.cycles, v ∈ c) ∧
      (∀ v, (∃ k ∈ components, v ∈ k) ↔ ∃ walk, Walk.IsClosed i.graph.Links walk ∧ v ∈ walk) ∧
      (∀ v ∈ affected, ∃ k ∈ components, v ∈ k) ∧
      (∀ walk, Walk.IsClosed i.graph.Links walk →
        ∃ e ∈ Walk.steps walk, e.1 ∈ affected ∧ e.2 ∈ affected) ∧
      ∀ k ∈ components, ∃ v ∈ k, v ∈ affected := by
  intro affected components
  have members (v : Text) : v ∈ affected ↔ ∃ c ∈ i.graph.cycles, v ∈ c := Cycle.mem_affected_iff
  rw [cycles_detectCycles]
  refine ⟨Cycle.pairwise_affected _, members, fun v => Digraph.exists_mem_cyclicComponents_iff,
    fun v hv => ?_, fun walk closed => ?_, fun k hk => ?_⟩
  · obtain ⟨c, hc, hv⟩ := (members v).1 hv
    obtain ⟨k, hk, within⟩ := Digraph.exists_component_of_mem_cycles hc
    exact ⟨k, hk, within v hv⟩
  · obtain ⟨e, taken, c, hc, source, target⟩ := Digraph.exists_step_of_isClosed closed
    exact ⟨e, taken, (members _).2 ⟨c, hc, source⟩, (members _).2 ⟨c, hc, target⟩⟩
  · obtain ⟨c, hc, within⟩ := Digraph.exists_cycle_of_mem_cyclicComponents hk
    obtain ⟨v, inner, rfl⟩ := (Digraph.isReport_of_mem_cycles hc).toIsClosed.exists_eq
    exact ⟨v, within v List.mem_cons_self, (members v).2 ⟨_, hc, List.mem_cons_self⟩⟩

/-- Two modules import each other, and a third closes a longer cycle with them. The
search has left `b` when it comes to `c`. -/
def detour : Inspection Unit where
  graph := Digraph.ofPairs [("a", "b"), ("b", "a"), ("a", "c"), ("c", "b")]

theorem detour_isCycle : Walk.IsCycle detour.graph.Links ["c", "b", "a", "c"] := by
  have linked : ∀ e ∈ Walk.steps (["c", "b", "a", "c"] : List Text),
      detour.graph.hasEdge e.1 e.2 = true := by
    decide
  exact {
    two_le := by decide
    returns := rfl
    linked := (Walk.isChain_iff_steps _).2 linked
    nodup := by decide }

theorem affected_meets_every_cycle_detour :
    let affected := Cycle.affected detour.detectCycles.known
    let walk : List Text := ["c", "b", "a", "c"]
    Walk.IsClosed detour.graph.Links walk ∧
      (∃ e ∈ Walk.steps walk, e.1 ∈ affected ∧ e.2 ∈ affected) ∧
      ∃ k ∈ detour.findComponents.components, ∃ v ∈ k, v ∈ affected := by
  intro affected walk
  have closed : Walk.IsClosed detour.graph.Links walk := detour_isCycle.toIsClosed
  obtain ⟨-, -, onWalks, -, crossed, held⟩ := affected_meets_every_cycle detour
  obtain ⟨k, hk, -⟩ := (onWalks "c").2 ⟨walk, closed, List.mem_cons_self⟩
  exact ⟨closed, crossed walk closed, k, hk, held k hk⟩

/-- The third module lies on a cycle, in one component with the affected ones, and is
not affected itself. -/
theorem affected_misses_detour :
    let walk : List Text := ["c", "b", "a", "c"]
    Walk.IsCycle detour.graph.Links walk ∧
      (∃ k ∈ detour.findComponents.components, ∀ v ∈ walk, v ∈ k) ∧
      Text.ofString "c" ∈ walk ∧
      Text.ofString "c" ∉ Cycle.affected detour.detectCycles.known := by
  intro walk
  have closed : Walk.IsClosed detour.graph.Links walk := detour_isCycle.toIsClosed
  have onWalk : Text.ofString "c" ∈ walk := List.mem_cons_self
  obtain ⟨k, hk, members⟩ :=
    Digraph.exists_mem_cyclicComponents (closed.transGen onWalk onWalk)
  have shared : ∀ v ∈ walk, v ∈ k := fun v hv =>
    (members v).2 (Digraph.connected_of_isClosed closed onWalk hv)
  refine ⟨detour_isCycle, ⟨k, hk, shared⟩, onWalk, fun listed => ?_⟩
  have none : ∀ c ∈ detour.graph.cycles, Text.ofString "c" ∉ c := by decide
  obtain ⟨c, hc, member⟩ := Cycle.mem_affected_iff.1 listed
  exact none c hc member

end Inspection

end ModuleAudit
