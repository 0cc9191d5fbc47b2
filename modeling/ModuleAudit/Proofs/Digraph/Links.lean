import ModuleAudit.Digraph.Basic
import ModuleAudit.Proofs.Walk

/-!
# Links of a directed graph

`Links` is the relation that the edges of a graph define. Successors and
predecessors list it from either side, and its ends are nodes, so the graph can
be walked by its successors without leaving its nodes.
-/

namespace ModuleAudit.Digraph

variable {α ε : Type} [DecidableEq α]

/-- There is an edge from one node to another. -/
def Links (g : Digraph α ε) (v w : α) : Prop := g.hasEdge v w = true

theorem mem_successors_eq_links (g : Digraph α ε) :
    (fun v w => w ∈ g.successors v) = g.Links := by
  funext v w
  exact propext (g.mem_successors v w)

/-- The ends of a link are nodes. -/
theorem Links.mem_nodes {g : Digraph α ε} {v w : α} (h : g.Links v w) :
    v ∈ g.nodes ∧ w ∈ g.nodes := by
  obtain ⟨e, he, ends⟩ := List.mem_map.1 ((g.hasEdge_iff v w).1 h)
  obtain ⟨rfl, rfl⟩ := Prod.mk.inj ends
  exact ⟨g.source_mem e he, g.target_mem e he⟩

theorem lists_successors (g : Digraph α ε) : Lists g.nodes g.successors where
  nodup := g.nodes_nodup
  source_mem := fun v w hw => (Links.mem_nodes ((g.mem_successors v w).1 hw)).1
  target_mem := fun v w hw => (Links.mem_nodes ((g.mem_successors v w).1 hw)).2

omit [DecidableEq α] in
/-- Edges of which one end is fixed are told apart by the other end. -/
theorem nodup_map_filter (g : Digraph α ε) {keep : Edge α ε → Bool} {other : Edge α ε → α}
    (apart : ∀ e e', keep e = true → keep e' = true → other e = other e' → e.ends = e'.ends) :
    ((g.edges.filter keep).map other).Nodup := by
  have ends : ((g.edges.filter keep).map Edge.ends).Nodup :=
    g.ends_nodup.sublist (List.filter_sublist.map _)
  refine List.pairwise_map.2 ((List.pairwise_map.1 ends).imp_of_mem fun {e e'} he he' ne same => ?_)
  exact ne (apart e e' (List.mem_filter.1 he).2 (List.mem_filter.1 he').2 same)

/-- No node is listed twice among the successors of another. -/
theorem nodup_successors (g : Digraph α ε) (v : α) : (g.successors v).Nodup :=
  g.nodup_map_filter fun e e' he he' same => by
    simp only [decide_eq_true_eq] at he he'
    rw [Edge.ends, Edge.ends, he, he', same]

/-- No node is listed twice among the predecessors of another. -/
theorem nodup_predecessors (g : Digraph α ε) (v : α) : (g.predecessors v).Nodup :=
  g.nodup_map_filter fun e e' he he' same => by
    simp only [decide_eq_true_eq] at he he'
    rw [Edge.ends, Edge.ends, he, he', same]

/-- A link is an edge with a label. -/
theorem hasEdge_iff_label? (g : Digraph α ε) (a b : α) :
    g.hasEdge a b = true ↔ (g.label? a b).isSome = true := by
  simp [hasEdge, label?]

/-- An edge is the only one between its ends. -/
theorem label?_of_mem {g : Digraph α ε} {e : Edge α ε} (he : e ∈ g.edges) :
    g.label? e.source e.target = some e.label := by
  obtain ⟨e', found⟩ : ∃ e', g.edges.find? (joins e.source e.target) = some e' := by
    rw [← Option.isSome_iff_exists, List.find?_isSome]
    exact ⟨e, he, by simp [joins]⟩
  have ends : e'.ends = e.ends := by
    have joined := List.find?_some found
    simp only [joins, Bool.and_eq_true, decide_eq_true_eq] at joined
    rw [Edge.ends, joined.1, joined.2, Edge.ends]
  have same := List.inj_on_of_nodup_map g.ends_nodup (List.mem_of_find?_eq_some found) he ends
  rw [label?, found, same, Option.map_some]

/-- Adding a node that is there changes nothing. -/
theorem addNode_of_mem {g : Digraph α ε} {v : α} (hv : v ∈ g.nodes) : g.addNode v = g :=
  dif_pos hv

theorem foldl_addNode_of_subset {g : Digraph α ε} {vs : List α} (known : vs ⊆ g.nodes) :
    vs.foldl addNode g = g := by
  induction vs with
  | nil => rfl
  | cons v vs ih =>
    obtain ⟨hv, known⟩ := List.cons_subset.1 known
    rw [List.foldl_cons, addNode_of_mem hv, ih known]

/-- Adding an edge that is there changes its label. -/
theorem addEdge_of_hasEdge {g : Digraph α ε} {a b : α} (there : g.hasEdge a b = true) (label : ε)
    (change : ε → ε) : g.addEdge a b label change = g.relabel a b change := by
  obtain ⟨ha, hb⟩ := Links.mem_nodes there
  simp only [addEdge, addNode_of_mem ha, addNode_of_mem hb]
  exact dif_neg (by simp [there])

/-- Labels make no difference to where edges are. -/
theorem hasEdge_eq_of_ends {ε' : Type} {g : Digraph α ε} {g' : Digraph α ε'}
    (ends : g.edges.map Edge.ends = g'.edges.map Edge.ends) (a b : α) :
    g.hasEdge a b = g'.hasEdge a b := by
  rw [Bool.eq_iff_iff, hasEdge_iff, hasEdge_iff, ends]

theorem label?_addNode (g : Digraph α ε) (v a b : α) : (g.addNode v).label? a b = g.label? a b := by
  rw [label?, edges_addNode, label?]

/-- New nodes are listed after the old ones, in the order of their adding. -/
theorem nodes_foldl_addNode {vs : List α} {g : Digraph α ε} (nodup : (g.nodes ++ vs).Nodup) :
    (vs.foldl addNode g).nodes = g.nodes ++ vs := by
  induction vs generalizing g with
  | nil => simp
  | cons v vs ih =>
    have fresh : v ∉ g.nodes := fun hv =>
      (List.nodup_append.1 nodup).2.2 v hv v List.mem_cons_self rfl
    have added : (g.addNode v).nodes = g.nodes ++ [v] := by
      rw [addNode, dif_neg fresh]
    rw [List.foldl_cons, ih, added, List.append_assoc, List.singleton_append]
    rwa [added, List.append_assoc, List.singleton_append]

theorem label?_foldl_addNode (vs : List α) (g : Digraph α ε) (a b : α) :
    (vs.foldl addNode g).label? a b = g.label? a b := by
  induction vs generalizing g with
  | nil => rfl
  | cons v vs ih => rw [List.foldl_cons, ih, label?_addNode]

/-- An edge between two nodes brings no new node. -/
theorem nodes_addEdge {g : Digraph α ε} {a b : α} (ha : a ∈ g.nodes) (hb : b ∈ g.nodes)
    (label : ε) (change : ε → ε) : (g.addEdge a b label change).nodes = g.nodes := by
  simp only [addEdge, addNode_of_mem ha, addNode_of_mem hb]
  split <;> rfl

theorem joins_iff (a b : α) (e : Edge α ε) : joins a b e = true ↔ e.source = a ∧ e.target = b := by
  simp [joins]

theorem label?_appendEdge (g : Digraph α ε) (a b : α) (label : ε) (ha : a ∈ g.nodes)
    (hb : b ∈ g.nodes) (fresh : g.hasEdge a b = false) (a' b' : α) :
    (g.appendEdge a b label ha hb fresh).label? a' b' =
      if a = a' ∧ b = b' then some label else g.label? a' b' := by
  have absent : g.edges.find? (joins a b) = none := by
    simpa [hasEdge, List.find?_eq_none] using fresh
  simp only [label?, appendEdge, List.find?_append]
  split
  · rename_i same
    obtain ⟨rfl, rfl⟩ := same
    simp [absent, joins]
  · rename_i other
    have : joins a' b' (⟨a, b, label⟩ : Edge α ε) = false := by
      rw [← Bool.not_eq_true, joins_iff]
      exact other
    simp [this]

theorem label?_relabel (g : Digraph α ε) (a b : α) (change : ε → ε) (a' b' : α) :
    (g.relabel a b change).label? a' b' =
      if a = a' ∧ b = b' then (g.label? a b).map change else g.label? a' b' := by
  have same_ends (e : Edge α ε) :
      joins a' b' (if joins a b e then { e with label := change e.label } else e) =
        joins a' b' e := by
    split <;> rfl
  simp only [label?, relabel, List.find?_map, Function.comp_def, same_ends, Option.map_map]
  split
  · rename_i same
    obtain ⟨rfl, rfl⟩ := same
    refine Option.map_congr fun e found => ?_
    simp [List.find?_some found]
  · rename_i other
    refine Option.map_congr fun e found => ?_
    have ends := (joins_iff a' b' e).1 (List.find?_some found)
    have : joins a b e = false := by
      rw [← Bool.not_eq_true, joins_iff, ends.1, ends.2]
      exact fun h => other ⟨h.1.symm, h.2.symm⟩
    simp [this]

/-- After an edge has been added it has the new label or the changed one, and
every other edge the label it had. -/
theorem label?_addEdge (g : Digraph α ε) (a b : α) (label : ε) (change : ε → ε) (a' b' : α) :
    (g.addEdge a b label change).label? a' b' =
      if a = a' ∧ b = b' then some ((g.label? a b).elim label change) else g.label? a' b' := by
  unfold addEdge
  dsimp only
  split
  · rename_i fresh
    rw [label?_appendEdge, label?_addNode, label?_addNode]
    split
    · have none : g.label? a b = none := by
        rw [← Option.not_isSome_iff_eq_none, ← hasEdge_iff_label?]
        simpa [hasEdge] using fresh
      rw [none, Option.elim_none]
    · rfl
  · rename_i known
    rw [label?_relabel, label?_addNode, label?_addNode, label?_addNode, label?_addNode]
    split
    · have there : (g.label? a b).isSome = true := by
        rw [← hasEdge_iff_label?]
        simpa [hasEdge] using known
      obtain ⟨old, hold⟩ := Option.isSome_iff_exists.1 there
      rw [hold, Option.elim_some, Option.map_some]
    · rfl

/-- The graph with edges between the listed pairs. -/
def ofPairs (pairs : List (α × α)) : Digraph α Unit :=
  pairs.foldl (fun g e => g.addEdge e.1 e.2 () id) .empty

end ModuleAudit.Digraph
