import ModuleAudit.Proofs.BackEdge.Separation
import ModuleAudit.Proofs.Cycle.Reported

/-!
# One cycle for each back edge

The cycles that a search finds are closed by different edges, and none of them
takes the closing edge of another. So no two are rotations of each other, their
canonical forms differ under any names for the nodes, and listing each canonical
form once leaves none of them out.
-/

namespace ModuleAudit

/-- Names that can be read back keep lists apart that are no rotations. -/
theorem isRotated_of_map {α β : Type} {f : α → β} {g : β → α} {l l' : List α}
    (back : ∀ a ∈ l, g (f a) = a) (back' : ∀ a ∈ l', g (f a) = a) (h : l.map f ~r l'.map f) :
    l ~r l' := by
  have read {l : List α} (back : ∀ a ∈ l, g (f a) = a) : (l.map f).map g = l := by
    rw [List.map_map]
    exact (List.map_congr_left back).trans (List.map_id _)
  rw [← read back, ← read back']
  exact h.map g

namespace Cycle

/-- Closed paths with different members, or with the same in another cyclic order,
are all kept, each in its closed canonical form. -/
theorem distinct_of_pairwise {r : Text → Text → Prop} {cycles : List (List Text)}
    (closed : ∀ c ∈ cycles, Walk.IsClosed r c)
    (different : cycles.Pairwise fun c d => ¬ c.dropLast ~r d.dropLast) :
    distinct cycles = cycles.map fun c => close (canonical c) := by
  have rotated {c : List Text} (hc : c ∈ cycles) : c.dropLast ~r canonical c :=
    members_of_isClosed (closed c hc) ▸ members_isRotated_canonical c
  have nonempty : ∀ c ∈ cycles, canonical c ≠ [] := by
    intro c hc none
    obtain ⟨v, inner, rfl⟩ := (closed c hc).exists_eq
    have members := rotated hc
    rw [Walk.dropLast_cons_concat] at members
    simp [none] at members
  have nodup : (cycles.map canonical).Nodup := by
    refine List.pairwise_map.2 (different.imp_of_mem fun {c d} hc hd other same => other ?_)
    exact (rotated hc).trans (same ▸ (rotated hd).symm)
  rw [distinct_of_ne_nil nonempty, eraseDups_of_nodup nodup, List.map_map]
  rfl

end Cycle

/-- Deduplication leaves out none of the cycles that a search of a graph finds. -/
theorem Digraph.length_cycles {ε : Type} (g : Digraph Text ε) :
    g.cycles.length = g.closedPaths.length := by
  have kept := Cycle.distinct_of_pairwise
    (fun c hc => (isCycle_of_mem_closedPaths hc).toIsClosed)
    (g.closedPaths_eq ▸ BackEdge.pairwise_not_isRotated g.nodes_nodup g.nodup_successors)
  rw [cycles, kept, List.length_map]

namespace BackEdge

/-- A node on a cycle is the number of a row. -/
theorem lt_length_of_mem {adjacency : List (List Nat)} {c : List Nat}
    (hc : Walk.IsClosed (Adjacent adjacency) c) {v : Nat} (hv : v ∈ c) : v < adjacency.length := by
  obtain ⟨w, edge, -⟩ := Relation.TransGen.head'_iff.1 (hc.transGen hv hv)
  by_contra outside
  simp [Adjacent, outside] at edge

/-- Where no row lists a neighbour twice, the cycles are closed by different edges, and
none takes the closing edge of another. So no two are rotations of each other, and under
any names that tell the nodes apart deduplication keeps all of them in their order. -/
theorem one_cycle_per_closing_edge (adjacency : List (List Nat))
    (simple : ∀ row ∈ adjacency, row.Nodup) :
    ((∀ c ∈ cyclesOfAdjacency adjacency, ∃ e, Walk.lastStep c = some e) ∧
        (closingSteps (cyclesOfAdjacency adjacency)).Nodup) ∧
      (cyclesOfAdjacency adjacency).Pairwise (fun c d =>
        (∀ e ∈ Walk.lastStep c, e ∉ Walk.steps d) ∧ ∀ e ∈ Walk.lastStep d, e ∉ Walk.steps c) ∧
      (cyclesOfAdjacency adjacency).Pairwise (fun c d => ¬ c.dropLast ~r d.dropLast) ∧
      ∀ name : Nat → Text, Set.InjOn name {v | v < adjacency.length} →
        let named := (cyclesOfAdjacency adjacency).map (List.map name)
        Cycle.distinct named = named.map (fun c => Cycle.close (Cycle.canonical c)) ∧
          (Cycle.distinct named).length = (cyclesOfAdjacency adjacency).length := by
  have nodup : (List.range adjacency.length).Nodup := List.nodup_range
  have rows (v : Nat) : (adjacency.getD v []).Nodup := by
    by_cases inside : v < adjacency.length
    · exact simple _ (by simp [inside])
    · simp [inside]
  have closed {c : List Nat} (hc : c ∈ cyclesOfAdjacency adjacency) :
      Walk.IsClosed (Adjacent adjacency) c :=
    (isCycle_of_mem_cycles nodup hc).toIsClosed
  have apart := pairwise_not_isRotated nodup rows
  refine ⟨⟨fun c hc => (closed hc).exists_lastStep, nodup_closingSteps nodup rows⟩,
    pairwise_lastStep_not_mem_steps nodup rows, apart, fun name injective => ?_⟩
  intro named
  have kept : Cycle.distinct named = named.map fun c => Cycle.close (Cycle.canonical c) := by
    have back (v : Nat) (hv : v < adjacency.length) :
        Function.invFunOn name {v | v < adjacency.length} (name v) = v :=
      injective.leftInvOn_invFunOn hv
    have members {c : List Nat} (hc : c ∈ cyclesOfAdjacency adjacency) :
        ∀ v ∈ c.dropLast, v < adjacency.length :=
      fun v hv => lt_length_of_mem (closed hc) (List.mem_of_mem_dropLast hv)
    refine Cycle.distinct_of_pairwise (r := fun _ _ => True) ?_ ?_
    · exact List.forall_mem_map.2 fun c hc => (closed hc).map fun _ _ _ => trivial
    · refine List.pairwise_map.2 (apart.imp_of_mem fun {c d} hc hd other same => other ?_)
      rw [← List.map_dropLast, ← List.map_dropLast] at same
      exact isRotated_of_map (fun v hv => back v (members hc v hv))
        (fun v hv => back v (members hd v hv)) same
  exact ⟨kept, by rw [kept, List.length_map, List.length_map]⟩

/-- Three cycles that share edges, two of them with the same closing node, stay three. -/
theorem one_cycle_per_closing_edge_two_returns :
    let adjacency := [[1], [2, 0], [0, 1]]
    let name : Nat → Text := fun v => [.ofNat v]
    cyclesOfAdjacency adjacency = [[0, 1, 2, 0], [1, 2, 1], [0, 1, 0]] ∧
      (∀ row ∈ adjacency, row.Nodup) ∧ [(2, 0), (2, 1), (1, 0)].Nodup ∧
      (Cycle.distinct ((cyclesOfAdjacency adjacency).map (List.map name))).length = 3 := by
  intro adjacency name
  have simple : ∀ row ∈ adjacency, row.Nodup := by decide
  have injective : Set.InjOn name {v | v < adjacency.length} := by
    intro v hv w hw same
    have values : min v 0x10FFFF = min w 0x10FFFF :=
      congrArg CodePoint.value (List.head_eq_of_cons_eq same)
    have small : v < 3 ∧ w < 3 := ⟨hv, hw⟩
    omega
  obtain ⟨⟨-, closing⟩, -, -, kept⟩ := one_cycle_per_closing_edge adjacency simple
  have found : cyclesOfAdjacency adjacency = [[0, 1, 2, 0], [1, 2, 1], [0, 1, 0]] := by decide
  refine ⟨found, simple, ?_, ?_⟩
  · rw [found] at closing
    exact closing
  · rw [(kept name injective).2, found]
    rfl

end BackEdge

end ModuleAudit
