import ModuleAudit.Digraph.BackEdge
import ModuleAudit.Digraph.Reach
import ModuleAudit.Proofs.Digraph.Links
import ModuleAudit.Proofs.Renaming

/-!
# Renaming the nodes of a graph

Nodes are only ever compared, so an injective renaming of the nodes commutes with
building a graph, with its successors, with every step of the back-edge search
and with the rows of reachability. The search of a renamed graph therefore closes
the renamed cycles in the same order, and the components are the renamed ones.
-/

namespace ModuleAudit

variable {α β ε : Type} (f : α ↪ β)

def Edge.rename (f : α → β) (e : Edge α ε) : Edge β ε where
  source := f e.source
  target := f e.target
  label := e.label

namespace Digraph

def rename (g : Digraph α ε) : Digraph β ε where
  nodes := g.nodes.map f
  edges := g.edges.map (Edge.rename f)
  nodes_nodup := g.nodes_nodup.map f.injective
  ends_nodup := by
    have ends : (g.edges.map (Edge.rename f)).map Edge.ends =
        (g.edges.map Edge.ends).map (Prod.map f f) := by
      simp only [List.map_map]
      rfl
    rw [ends]
    exact g.ends_nodup.map (f.injective.prodMap f.injective)
  source_mem := by
    intro e he
    obtain ⟨e', he', rfl⟩ := List.mem_map.1 he
    exact List.mem_map_of_mem (g.source_mem e' he')
  target_mem := by
    intro e he
    obtain ⟨e', he', rfl⟩ := List.mem_map.1 he
    exact List.mem_map_of_mem (g.target_mem e' he')

@[simp] theorem nodes_rename (g : Digraph α ε) : (g.rename f).nodes = g.nodes.map f := rfl

@[simp] theorem edges_rename (g : Digraph α ε) :
    (g.rename f).edges = g.edges.map (Edge.rename f) := rfl

theorem eq_of_nodes_of_edges {g g' : Digraph α ε} (nodes : g.nodes = g'.nodes)
    (edges : g.edges = g'.edges) : g = g' := by
  cases g
  cases g'
  subst nodes
  subst edges
  rfl

@[simp] theorem rename_empty : (empty : Digraph α ε).rename f = empty := rfl

variable [DecidableEq α] [DecidableEq β]

theorem addNode_rename (g : Digraph α ε) (v : α) :
    (g.rename f).addNode (f v) = (g.addNode v).rename f := by
  by_cases listed : v ∈ g.nodes
  · rw [addNode_of_mem listed, addNode_of_mem (List.mem_map_of_mem listed)]
  · have absent : f v ∉ (g.rename f).nodes := by
      rwa [nodes_rename, List.mem_map_of_injective f.injective]
    apply eq_of_nodes_of_edges
    · simp [addNode, listed, f.injective.eq_iff]
    · simp

theorem joins_rename (a b : α) (e : Edge α ε) :
    joins (f a) (f b) (e.rename f) = joins a b e := by
  simp [joins, Edge.rename, f.injective.eq_iff]

theorem hasEdge_rename (g : Digraph α ε) (a b : α) :
    (g.rename f).hasEdge (f a) (f b) = g.hasEdge a b := by
  simp [hasEdge, Function.comp_def, joins_rename]

theorem addEdge_rename (g : Digraph α ε) (a b : α) (label : ε) (change : ε → ε) :
    (g.rename f).addEdge (f a) (f b) label change = (g.addEdge a b label change).rename f := by
  simp only [addEdge, addNode_rename, hasEdge_rename]
  split
  · apply eq_of_nodes_of_edges
    · rfl
    · simp [appendEdge, Edge.rename]
  · apply eq_of_nodes_of_edges
    · rfl
    · simp only [relabel, edges_rename, List.map_map]
      apply List.map_congr_left
      intro e _
      simp only [Function.comp_apply, joins_rename]
      split <;> rfl

theorem successors_rename (g : Digraph α ε) (v : α) :
    (g.rename f).successors (f v) = (g.successors v).map f := by
  simp [successors, outEdges, List.filter_map, Function.comp_def, Edge.rename,
    f.injective.eq_iff]

end Digraph

/-! ## Back-edge search -/

namespace BackEdge

def Frame.rename (f : α → β) (frame : Frame α) : Frame β where
  node := f frame.node
  pending := frame.pending.map f

namespace Search

/-- A state of the search among renamed nodes. -/
def rename (s : Search α) : Search β where
  starts := s.starts.map f
  fresh := s.fresh.map f
  stack := s.stack.map (Frame.rename f)
  path := s.path.map f
  position := s.position.rename f
  cycles := s.cycles.map (List.map f)

section

variable {succ : α → List α} {succ' : β → List β}
  (renamed : ∀ v, succ' (f v) = (succ v).map f)

include renamed

theorem budget_rename (s : Search α) : (s.rename f).budget succ' = s.budget succ := by
  simp [budget, rename, Frame.rename, renamed, List.flatMap_map, List.length_flatMap]

variable [DecidableEq α] [DecidableEq β]

theorem visit_rename (s : Search α) (v : α) :
    (s.rename f).visit succ' (f v) = (s.visit succ v).rename f := by
  simp only [visit, rename, renamed, List.map_erase f.injective, List.map_append, List.map_cons,
    List.map_nil, List.length_map, Frame.rename, Table.insert_rename]

theorem examine_rename (s : Search α) (v : α) :
    (s.rename f).examine succ' (f v) = (s.examine succ v).rename f := by
  have fresh : f v ∈ (s.rename f).fresh ↔ v ∈ s.fresh :=
    List.mem_map_of_injective f.injective
  have place : (s.rename f).position.get? (f v) = s.position.get? v := s.position.get?_rename f v
  unfold examine
  simp only [fresh, place]
  split
  · exact visit_rename f renamed s v
  · split
    · simp [rename]
    · rfl

/-- One step of the search does not see the names of the nodes. -/
theorem step_rename (s : Search α) :
    (s.rename f).step succ' = (s.step succ).map (rename f) := by
  obtain ⟨starts, fresh, stack, path, position, cycles⟩ := s
  cases stack with
  | nil =>
    cases starts with
    | nil => rfl
    | cons v starts =>
      have visited := visit_rename f renamed
        { starts, fresh, stack := [], path, position, cycles } v
      by_cases listed : v ∈ fresh
      · simpa [step, rename, listed] using visited
      · simp [step, rename, listed]
  | cons frame below =>
    obtain ⟨v, pending⟩ := frame
    cases pending with
    | nil => simp [step, rename, leave, Frame.rename, Table.erase_rename, List.map_dropLast]
    | cons w pending =>
      have examined := examine_rename f renamed
        { starts, fresh, stack := ⟨v, pending⟩ :: below, path, position, cycles } w
      simpa [step, rename, Frame.rename] using examined

theorem run_rename (fuel : Nat) (s : Search α) :
    (s.rename f).run succ' fuel = (s.run succ fuel).rename f := by
  induction fuel generalizing s with
  | zero => rfl
  | succ fuel ih =>
    rw [run, run, step_rename f renamed]
    cases s.step succ with
    | none => rfl
    | some next => exact ih next

end

end Search

/-- The search of renamed nodes closes the renamed cycles. -/
theorem cycles_rename [DecidableEq α] [DecidableEq β] {succ : α → List α} {succ' : β → List β}
    (renamed : ∀ v, succ' (f v) = (succ v).map f) (nodes : List α) :
    cycles succ' (nodes.map f) = (cycles succ nodes).map (List.map f) := by
  have start : Search.start (nodes.map f) = (Search.start nodes).rename f := rfl
  simp only [cycles, start, Search.budget_rename f renamed, Search.run_rename f renamed]
  rfl

/-- The successors of numbered nodes, by their numbers. -/
def numbered {nodes : List α} {succ : α → List α} [DecidableEq α] (listed : Lists nodes succ)
    (number : Fin nodes.length) : List (Fin nodes.length) :=
  (succ (nodes.get number)).attach.map fun w =>
    ⟨nodes.idxOf w.1, List.idxOf_lt_length_iff.2 (listed.target_mem _ w.1 w.2)⟩

/-- The search may as well run on the numbers of the nodes: the nodes and the numbers are
both renamed from the positions in the list. -/
theorem cyclesOfAdjacency_numbers [DecidableEq α] {nodes : List α} {succ : α → List α}
    (listed : Lists nodes succ) (absent : α) :
    (cyclesOfAdjacency (nodes.map fun v => (succ v).map fun w => nodes.idxOf w)).map
      (List.map fun number => nodes.getD number absent) = cycles succ nodes := by
  let node : Fin nodes.length ↪ α := ⟨nodes.get, List.nodup_iff_injective_get.1 listed.nodup⟩
  have byNode (i : Fin nodes.length) : succ (node i) = (numbered listed i).map node := by
    simp [numbered, node]
  have byNumber (i : Fin nodes.length) :
      (nodes.map fun v => (succ v).map fun w => nodes.idxOf w).getD (Fin.valEmbedding i) [] =
        (numbered listed i).map Fin.valEmbedding := by
    simp [numbered, List.getD_eq_getElem?_getD]
  have all : (List.finRange nodes.length).map node = nodes := List.map_get_finRange nodes
  have range : (List.finRange nodes.length).map Fin.valEmbedding = List.range nodes.length :=
    List.map_coe_finRange_eq_range
  have named := cycles_rename node byNode (List.finRange nodes.length)
  have counted : cyclesOfAdjacency (nodes.map fun v => (succ v).map fun w => nodes.idxOf w) =
      (cycles (numbered listed) (List.finRange nodes.length)).map (List.map Fin.valEmbedding) := by
    rw [cyclesOfAdjacency, List.length_map, ← range]
    exact cycles_rename _ byNumber _
  rw [all] at named
  rw [counted, named, List.map_map]
  apply List.map_congr_left
  intro cycle _
  rw [Function.comp_apply, List.map_map]
  apply List.map_congr_left
  intro i _
  simp [node, List.getD_eq_getElem?_getD]

end BackEdge

/-! ## Reachability -/

def Reacher.rename (f : α → β) (a : Reacher α) : Reacher β where
  node := f a.node
  number := a.number
  row := a.row

namespace Digraph

variable [DecidableEq α] [DecidableEq β]

theorem rowOf_rename (g : Digraph α ε) (targets : List α) :
    (g.rename f).rowOf (targets.map f) = g.rowOf targets := by
  simp only [rowOf, nodes_rename, List.foldl_map, idxOf_rename]

theorem reachers_rename (g : Digraph α ε) :
    (g.rename f).reachers = g.reachers.map (Reacher.rename f) := by
  simp only [reachers, reachersBy, nodes_rename, List.map_map, Function.comp_def,
    successors_rename, rowOf_rename, List.zip_map_left, List.zipIdx_map]
  rfl

theorem components_rename (g : Digraph α ε) :
    (g.rename f).components = g.components.map (List.map f) := by
  have spans : g.reachers.map (Reacher.span ∘ Reacher.rename f) = g.reachers.map Reacher.span := rfl
  simp only [components, reachers_rename, List.map_map, List.filter_map, spans]
  apply List.map_congr_left
  intro span _
  rw [Function.comp_apply, List.map_map]
  rfl

end Digraph

end ModuleAudit
