import ModuleAudit.Cycle.Inspection
import ModuleAudit.Proofs.BackEdge.Completeness
import ModuleAudit.Proofs.Cycle.Canonical
import ModuleAudit.Proofs.Digraph.Renaming

/-!
# Reported cycles

The cycles of a graph are reported in canonical form. Turning a cycle to its
smallest member and closing it again gives a cycle with the same members and the
same edges, so a reported list is genuine because the list that the search found
is. Lists with the same canonical form are reported once, and canonical forms
are equal as soon as they are rotations of each other.
-/

namespace ModuleAudit

namespace Cycle

/-- The members of a closed path are all of it but its end. -/
theorem members_of_isClosed {r : Text → Text → Prop} {c : List Text} (h : Walk.IsClosed r c) :
    members c = c.dropLast :=
  if_pos ⟨h.two_le, h.returns⟩

/-- The closed canonical form of a cycle is a cycle with the same members. -/
theorem isCycle_close_canonical {r : Text → Text → Prop} {c : List Text} (h : Walk.IsCycle r c) :
    canonical c ≠ [] ∧ Walk.IsCycle r (close (canonical c)) ∧ c.dropLast ~r canonical c := by
  have rotated : c.dropLast ~r canonical c :=
    members_of_isClosed h.toIsClosed ▸ members_isRotated_canonical c
  obtain ⟨v, inner, rfl⟩ := h.exists_eq
  rw [Walk.dropLast_cons_concat] at rotated ⊢
  cases hform : canonical (v :: (inner ++ [v])) with
  | nil => simp [hform] at rotated
  | cons w inner' =>
    rw [hform] at rotated
    exact ⟨by simp, by simpa [close] using h.of_isRotated rotated, rotated⟩

end Cycle

namespace Digraph

variable {ε : Type}

/-- The search on the numbers of the nodes closes the paths that one on the nodes does. -/
theorem closedPaths_eq (g : Digraph Text ε) :
    g.closedPaths = BackEdge.cycles g.successors g.nodes :=
  BackEdge.cyclesOfAdjacency_numbers g.lists_successors []

theorem isCycle_of_mem_closedPaths {g : Digraph Text ε} {c : List Text}
    (hc : c ∈ g.closedPaths) : Walk.IsCycle g.Links c := by
  rw [closedPaths_eq] at hc
  exact g.mem_successors_eq_links ▸ BackEdge.isCycle_of_mem_cycles g.nodes_nodup hc

/-- Every reported cycle is the closed canonical form of one that the search
found, and each of those is reported. -/
theorem mem_cycles_iff {g : Digraph Text ε} {c : List Text} :
    c ∈ g.cycles ↔ ∃ d ∈ g.closedPaths, Cycle.close (Cycle.canonical d) = c := by
  rw [cycles, Cycle.mem_distinct]
  constructor
  · rintro ⟨d, hd, -, rfl⟩
    exact ⟨d, hd, rfl⟩
  · rintro ⟨d, hd, rfl⟩
    exact ⟨d, hd, (Cycle.isCycle_close_canonical (isCycle_of_mem_closedPaths hd)).1, rfl⟩

/-- A cycle of the graph, closed and started at its smallest member. -/
structure IsReport (g : Digraph Text ε) (c : List Text) : Prop extends
    Walk.IsCycle g.Links c where
  least : Cycle.StartsLeast c

theorem isReport_of_mem_cycles {g : Digraph Text ε} {c : List Text} (hc : c ∈ g.cycles) :
    g.IsReport c := by
  obtain ⟨d, hd, rfl⟩ := mem_cycles_iff.1 hc
  obtain ⟨nonempty, cycle, -⟩ := Cycle.isCycle_close_canonical (isCycle_of_mem_closedPaths hd)
  refine ⟨cycle, ?_⟩
  have least := Cycle.startsLeast_canonical d
  obtain ⟨first, rest, hform⟩ := List.exists_cons_of_ne_nil nonempty
  rw [hform] at least ⊢
  exact (Cycle.startsLeast_cons_concat first rest).2 least

/-- The open forms of reported cycles start with their smallest members. -/
theorem IsReport.startsLeast_dropLast {g : Digraph Text ε} {c : List Text} (h : g.IsReport c) :
    Cycle.StartsLeast c.dropLast := by
  obtain ⟨v, inner, rfl⟩ := h.exists_eq
  rw [Walk.dropLast_cons_concat]
  exact (Cycle.startsLeast_cons_concat v inner).1 h.least

/-- Every reported list is a cycle of the graph that starts at its smallest
member, and no two of them are the same cycle, whether they are compared as
lists or by their members. -/
theorem cycles_genuine_and_distinct (g : Digraph Text ε) :
    (∀ c ∈ g.cycles, 2 ≤ c.length ∧ c.head? = c.getLast? ∧ c.dropLast.Nodup ∧
      (∀ e ∈ Walk.steps c, g.hasEdge e.1 e.2 = true) ∧
      ∀ first ∈ c.head?, ∀ v ∈ c, Text.codes first ≤ Text.codes v) ∧
    g.cycles.Pairwise fun c d => ¬ c ~r d ∧ ¬ c.dropLast ~r d.dropLast := by
  refine ⟨fun c hc => ?_, ?_⟩
  · have report := isReport_of_mem_cycles hc
    exact ⟨report.two_le, report.returns, report.nodup,
      (Walk.isChain_iff_steps c).1 report.linked, report.least⟩
  · have different : g.cycles.Pairwise fun c d => c.dropLast ≠ d.dropLast :=
      List.pairwise_map.1 (Cycle.nodup_map_dropLast_distinct g.closedPaths)
    refine different.imp_of_mem fun {c d} hc hd ne => ?_
    have c_report := isReport_of_mem_cycles hc
    have d_report := isReport_of_mem_cycles hd
    refine ⟨fun rotated => ?_, fun rotated => ?_⟩
    · exact ne (congrArg List.dropLast
        (c_report.toIsCycle.eq_of_isRotated d_report.toIsCycle rotated))
    · exact ne (c_report.startsLeast_dropLast.eq_of_isRotated d_report.startsLeast_dropLast
        c_report.nodup rotated)

/-- A triangle that is entered at its second member, with a loop at one corner. -/
theorem cycles_genuine_and_distinct_triangle :
    let g : Digraph Text Unit := ofPairs [("b", "a"), ("a", "c"), ("c", "b"), ("c", "c")]
    let c : List Text := ["a", "c", "b", "a"]
    let loop : List Text := ["c", "c"]
    g.cycles = [c, loop] ∧ (∀ e ∈ Walk.steps c, g.hasEdge e.1 e.2 = true) ∧
      (∀ v ∈ c, Text.codes "a" ≤ Text.codes v) ∧ ¬ c.dropLast ~r loop.dropLast := by
  intro g c loop
  have reported : g.cycles = [c, loop] := by decide
  obtain ⟨genuine, distinct⟩ := cycles_genuine_and_distinct g
  obtain ⟨-, -, -, linked, least⟩ := genuine c (by simp [reported])
  rw [reported] at distinct
  exact ⟨reported, linked, least _ rfl, ((List.pairwise_cons.1 distinct).1 loop (by simp)).2⟩

end Digraph

end ModuleAudit
