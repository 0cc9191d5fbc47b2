import ModuleAudit.Proofs.Cycle.Components

/-!
# Components are classes of mutual reachability

Nodes that reach each other form a class, and every node is in one of them, if only
with itself. A class holds a cycle exactly when one of its members reaches itself by at
least one edge, and then all of them do. Two members are enough for that; a member
that is alone in its class must have an edge to itself.

The listed components are these classes. Members in order determine a class, so no
class is listed twice and no two of those listed share a member.
-/

namespace ModuleAudit

namespace Digraph

variable {ε : Type} {g : Digraph Text ε} {k : List Text}

/-- Some cycle stays on the list. -/
def HoldsCycle (g : Digraph Text ε) (k : List Text) : Prop :=
  ∃ walk, Walk.IsCycle g.Links walk ∧ walk ⊆ k

/-- A class holds a cycle exactly when one of its members reaches itself. -/
theorem IsClass.holdsCycle_iff (h : g.IsClass k) :
    g.HoldsCycle k ↔ ∃ v ∈ k, Relation.TransGen g.Links v v := by
  constructor
  · rintro ⟨walk, cycle, within⟩
    obtain ⟨v, inner, rfl⟩ := cycle.exists_eq
    have first : v ∈ v :: (inner ++ [v]) := List.mem_cons_self
    exact ⟨v, within first, cycle.transGen first first⟩
  · rintro ⟨v, hv, returns⟩
    obtain ⟨c, hc, members⟩ := exists_mem_cyclicComponents returns
    obtain ⟨walk, reported, within⟩ := exists_cycle_of_mem_cyclicComponents hc
    refine ⟨walk, (isReport_of_mem_cycles reported).toIsCycle, fun w hw => ?_⟩
    exact (h.mem_iff hv w).2 ((members w).1 (within w hw))

/-- The listed components are the classes that hold a cycle, each in order. -/
theorem mem_cyclicComponents_iff_isClass :
    k ∈ g.cyclicComponents ↔
      k.Pairwise (fun v w => v.codes < w.codes) ∧ g.IsClass k ∧ g.HoldsCycle k := by
  constructor
  · intro hk
    obtain ⟨v, returns, members⟩ := exists_of_mem_cyclicComponents hk
    obtain ⟨u, link, -⟩ := Relation.TransGen.head'_iff.1 returns
    have isClass : g.IsClass k := ⟨v, link.mem_nodes.1, members⟩
    refine ⟨pairwise_of_mem_cyclicComponents hk, isClass, isClass.holdsCycle_iff.2 ?_⟩
    exact ⟨v, (members v).2 (.refl g v), returns⟩
  · rintro ⟨sorted, isClass, holds⟩
    obtain ⟨v, hv, returns⟩ := isClass.holdsCycle_iff.1 holds
    obtain ⟨c, hc, members⟩ := exists_mem_cyclicComponents returns
    have same (w : Text) : w ∈ k ↔ w ∈ c := by
      rw [members, isClass.mem_iff hv]
    rwa [eq_of_pairwise_lt_key sorted (pairwise_of_mem_cyclicComponents hc) same]

/-- Components that share a member are the same. -/
theorem eq_of_mem_cyclicComponents {k' : List Text} (hk : k ∈ g.cyclicComponents)
    (hk' : k' ∈ g.cyclicComponents) {v : Text} (hv : v ∈ k) (hv' : v ∈ k') : k = k' := by
  obtain ⟨sorted, isClass, -⟩ := mem_cyclicComponents_iff_isClass.1 hk
  obtain ⟨sorted', isClass', -⟩ := mem_cyclicComponents_iff_isClass.1 hk'
  exact eq_of_pairwise_lt_key sorted sorted' fun w => by
    rw [isClass.mem_iff hv, isClass'.mem_iff hv']

theorem pairwise_disjoint_cyclicComponents (g : Digraph Text ε) :
    g.cyclicComponents.Pairwise List.Disjoint := by
  refine g.pairwise_lt_cyclicComponents.imp_of_mem fun {k k'} hk hk' lt v hv hv' => ?_
  exact lt.ne (congrArg (List.map Text.codes) (eq_of_mem_cyclicComponents hk hk' hv hv'))

end Digraph

namespace Inspection

variable {ε : Type}

/-- The components are exactly the classes of mutual reachability that hold a cycle: those
with two or more members, and those of one member with an edge to itself. Each is listed
once with its members in order, no two share a member, the list is in order, and its
members are the modules that reach themselves by at least one edge. -/
theorem components_are_cyclic_classes (i : Inspection ε) :
    let components := i.findComponents.components
    (∀ k, k ∈ components ↔ k.Pairwise (fun v w => v.codes < w.codes) ∧
        i.graph.IsClass k ∧ i.graph.HoldsCycle k) ∧
      (∀ k, i.graph.IsClass k → k.Nodup → (i.graph.HoldsCycle k ↔
        2 ≤ k.length ∨ ∃ v, k = [v] ∧ i.graph.hasEdge v v = true)) ∧
      components.Pairwise List.Disjoint ∧
      components.Pairwise (fun k k' => k.map Text.codes < k'.map Text.codes) ∧
      ∀ v, (∃ k ∈ components, v ∈ k) ↔ Relation.TransGen i.graph.Links v v := by
  intro components
  refine ⟨fun k => Digraph.mem_cyclicComponents_iff_isClass, fun k isClass nodup => ?_,
    i.graph.pairwise_disjoint_cyclicComponents, i.graph.pairwise_lt_cyclicComponents,
    fun v => Digraph.exists_mem_cyclicComponents_iff_returns⟩
  rw [isClass.holdsCycle_iff, isClass.exists_returns_iff nodup]

/-- A pair, a module that imports itself, and two modules on no cycle between them. -/
def pairAndLoop : Inspection Unit where
  graph := Digraph.ofPairs [("d", "d"), ("d", "e"), ("e", "c"), ("c", "b"), ("b", "c"), ("b", "a")]

theorem components_are_cyclic_classes_pair_and_loop :
    let pair : List Text := ["b", "c"]
    let loop : List Text := ["d"]
    pairAndLoop.findComponents.components = [pair, loop] ∧
      pairAndLoop.graph.IsClass pair ∧ pairAndLoop.graph.HoldsCycle loop ∧
      pair.Disjoint loop ∧ ¬ Relation.TransGen pairAndLoop.graph.Links "e" "e" := by
  intro pair loop
  have found : pairAndLoop.findComponents.components = [pair, loop] := by cbv
  obtain ⟨listed, significant, disjoint, -, returning⟩ := components_are_cyclic_classes pairAndLoop
  rw [found] at listed disjoint returning
  obtain ⟨-, pairClass, -⟩ := (listed pair).1 List.mem_cons_self
  obtain ⟨-, loopClass, -⟩ := (listed loop).1 (by simp)
  refine ⟨found, pairClass, ?_, (List.pairwise_cons.1 disjoint).1 _ List.mem_cons_self, ?_⟩
  · exact (significant loop loopClass (by decide)).2 (.inr ⟨"d", rfl, by decide⟩)
  · rw [← returning]
    decide

end Inspection

end ModuleAudit
