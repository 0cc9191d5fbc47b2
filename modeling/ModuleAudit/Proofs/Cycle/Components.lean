import ModuleAudit.Proofs.Cycle.Agreement
import ModuleAudit.Proofs.Rearrangement

/-!
# Components depend on the links only

A component lists each of its nodes once, and no two components share a node. In
order, a component is therefore determined by the relation of the links, and so
is the list of all of them, whatever order the nodes and the edges have.
-/

namespace ModuleAudit.Digraph

section

variable {α ε : Type} [DecidableEq α] {g : Digraph α ε}

/-- Of two components the first has a node that the second has not. -/
theorem pairwise_components (g : Digraph α ε) :
    g.components.Pairwise fun k k' => ∃ v ∈ k, v ∉ k' := by
  rw [components, List.pairwise_map]
  refine (nodup_eraseDups _).imp_of_mem fun {span span'} hspan hspan' other => ?_
  rw [List.mem_eraseDups, List.mem_map] at hspan hspan'
  obtain ⟨a, ha, rfl⟩ := hspan
  obtain ⟨b, hb, rfl⟩ := hspan'
  refine ⟨a.node, (mem_spanning_iff ha a.node).2 (.refl g _), fun shared => other ?_⟩
  exact ((span_eq_iff hb ha).2 ((mem_spanning_iff hb a.node).1 shared)).symm

end

variable {ε ε' : Type} {g : Digraph Text ε} {g' : Digraph Text ε'}

theorem nodup_map_sort_cyclic (g : Digraph Text ε) :
    ((g.components.filter g.holdsCycle).map Text.sort).Nodup := by
  rw [List.Nodup, List.pairwise_map]
  refine (g.pairwise_components.filter _).imp fun {k k'} ⟨v, hv, absent⟩ same => absent ?_
  have listed : v ∈ Text.sort k := List.mem_mergeSort.2 hv
  rw [same] at listed
  exact List.mem_mergeSort.1 listed

theorem pairwise_of_mem_cyclicComponents {k : List Text} (hk : k ∈ g.cyclicComponents) :
    k.Pairwise fun v w => v.codes < w.codes := by
  obtain ⟨c, hc, -, rfl⟩ := mem_cyclicComponents_iff.1 hk
  exact Text.pairwise_sort (nodup_of_mem_components hc)

/-- The list of components is in order and has none of them twice. -/
theorem pairwise_lt_cyclicComponents (g : Digraph Text ε) :
    g.cyclicComponents.Pairwise fun k k' => k.map Text.codes < k'.map Text.codes :=
  pairwise_lt_mergeSort_key (List.map_injective_iff.2 Text.codes_injective)
    Text.not_listBefore_iff g.nodup_map_sort_cyclic

/-- A graph with the same links lists the same components. -/
theorem mem_cyclicComponents_of_links (links : g.Links = g'.Links) {k : List Text}
    (hk : k ∈ g.cyclicComponents) : k ∈ g'.cyclicComponents := by
  obtain ⟨v, returns, members⟩ := exists_of_mem_cyclicComponents hk
  obtain ⟨k', hk', members'⟩ := exists_mem_cyclicComponents (g := g') (links ▸ returns)
  have same (w : Text) : w ∈ k ↔ w ∈ k' := by
    rw [members, members', Connected, Connected, links]
  rwa [eq_of_pairwise_lt_key (pairwise_of_mem_cyclicComponents hk)
    (pairwise_of_mem_cyclicComponents hk') same]

/-- The listed components are determined by the links. -/
theorem cyclicComponents_eq_of_links (links : g.Links = g'.Links) :
    g.cyclicComponents = g'.cyclicComponents :=
  eq_of_pairwise_lt_key g.pairwise_lt_cyclicComponents g'.pairwise_lt_cyclicComponents fun _ =>
    ⟨mem_cyclicComponents_of_links links, mem_cyclicComponents_of_links links.symm⟩

/-- Whether a cycle is reported is determined by the links. -/
theorem cycles_eq_nil_iff_of_links (links : g.Links = g'.Links) :
    g.cycles = [] ↔ g'.cycles = [] := by
  rw [cycles_eq_nil_iff_acyclic, cycles_eq_nil_iff_acyclic, links]

end ModuleAudit.Digraph
