/-!
# Directed graphs

A graph has nodes and labelled edges, both listed in the order in which they
were first added. There is at most one edge from a node to another; adding it
again changes its label and keeps its place. An edge brings its ends with it,
so the ends of every edge are nodes.

The successors and the predecessors of a node are read off the one list of
edges, which fixes the order of both.
-/

namespace ModuleAudit

structure Edge (α ε : Type) where
  source : α
  target : α
  label : ε

def Edge.ends {α ε : Type} (e : Edge α ε) : α × α := (e.source, e.target)

/-- The steps of a walk: every two neighbours. -/
def Walk.steps {α : Type} (walk : List α) : List (α × α) := walk.zip walk.tail

/-- A finite directed graph without parallel edges. -/
structure Digraph (α ε : Type) where
  nodes : List α
  edges : List (Edge α ε)
  nodes_nodup : nodes.Nodup
  ends_nodup : (edges.map Edge.ends).Nodup
  source_mem : ∀ e ∈ edges, e.source ∈ nodes
  target_mem : ∀ e ∈ edges, e.target ∈ nodes

namespace Digraph

variable {α ε : Type}

def empty : Digraph α ε where
  nodes := []
  edges := []
  nodes_nodup := List.nodup_nil
  ends_nodup := List.nodup_nil
  source_mem := by simp
  target_mem := by simp

variable [DecidableEq α]

/-- Add a node at the end of the nodes, if it is new. -/
def addNode (g : Digraph α ε) (v : α) : Digraph α ε :=
  if h : v ∈ g.nodes then g
  else
    { g with
      nodes := g.nodes ++ [v]
      nodes_nodup := by
        rw [List.nodup_append]
        refine ⟨g.nodes_nodup, by simp, ?_⟩
        intro a ha b hb
        simp only [List.mem_singleton] at hb
        subst hb
        exact fun e => h (e ▸ ha)
      source_mem := fun e he => List.mem_append_left _ (g.source_mem e he)
      target_mem := fun e he => List.mem_append_left _ (g.target_mem e he) }

/-- A node is in the graph after it has been added, and no other node is new. -/
@[simp] theorem mem_nodes_addNode (g : Digraph α ε) (v w : α) :
    w ∈ (g.addNode v).nodes ↔ w ∈ g.nodes ∨ w = v := by
  unfold addNode
  split
  · rename_i h
    exact ⟨.inl, fun hw => hw.elim id fun e => e ▸ h⟩
  · simp

@[simp] theorem edges_addNode (g : Digraph α ε) (v : α) : (g.addNode v).edges = g.edges := by
  unfold addNode
  split <;> rfl

def joins (a b : α) (e : Edge α ε) : Bool := e.source = a && e.target = b

def label? (g : Digraph α ε) (a b : α) : Option ε :=
  (g.edges.find? (joins a b)).map Edge.label

def hasEdge (g : Digraph α ε) (a b : α) : Bool := g.edges.any (joins a b)

theorem hasEdge_iff (g : Digraph α ε) (a b : α) :
    g.hasEdge a b = true ↔ (a, b) ∈ g.edges.map Edge.ends := by
  simp only [hasEdge, joins, List.any_eq_true, Bool.and_eq_true, decide_eq_true_eq, List.mem_map,
    Edge.ends, Prod.mk.injEq]

def relabel (g : Digraph α ε) (a b : α) (f : ε → ε) : Digraph α ε where
  nodes := g.nodes
  edges := g.edges.map fun e => if joins a b e then { e with label := f e.label } else e
  nodes_nodup := g.nodes_nodup
  ends_nodup := by
    have same : (g.edges.map fun e =>
        if joins a b e then { e with label := f e.label } else e).map Edge.ends =
          g.edges.map Edge.ends := by
      rw [List.map_map]
      apply List.map_congr_left
      intro e _
      simp only [Function.comp_apply]
      split <;> rfl
    rw [same]
    exact g.ends_nodup
  source_mem := by
    intro e he
    obtain ⟨e', he', rfl⟩ := List.mem_map.1 he
    have := g.source_mem e' he'
    split <;> exact this
  target_mem := by
    intro e he
    obtain ⟨e', he', rfl⟩ := List.mem_map.1 he
    have := g.target_mem e' he'
    split <;> exact this

def appendEdge (g : Digraph α ε) (a b : α) (label : ε) (ha : a ∈ g.nodes) (hb : b ∈ g.nodes)
    (fresh : g.hasEdge a b = false) : Digraph α ε where
  nodes := g.nodes
  edges := g.edges ++ [⟨a, b, label⟩]
  nodes_nodup := g.nodes_nodup
  ends_nodup := by
    rw [List.map_append, List.nodup_append]
    refine ⟨g.ends_nodup, by simp, ?_⟩
    intro x hx y hy
    simp only [List.map_cons, List.map_nil, List.mem_singleton, Edge.ends] at hy
    subst hy
    intro e
    have : g.hasEdge a b = true := (g.hasEdge_iff a b).2 (e ▸ hx)
    simp [fresh] at this
  source_mem := by
    intro e he
    rcases List.mem_append.1 he with he | he
    · exact g.source_mem e he
    · simp only [List.mem_singleton] at he; subst he; exact ha
  target_mem := by
    intro e he
    rcases List.mem_append.1 he with he | he
    · exact g.target_mem e he
    · simp only [List.mem_singleton] at he; subst he; exact hb

/-- Add an edge with its ends. A new edge has the label `label`; the label of an
edge that is there already is changed by `change`. -/
def addEdge (g : Digraph α ε) (a b : α) (label : ε) (change : ε → ε) : Digraph α ε :=
  let g' := (g.addNode a).addNode b
  if fresh : g'.hasEdge a b = false then
    g'.appendEdge a b label (by simp [g']) (by simp [g']) fresh
  else g'.relabel a b change

/-- Remove the edge between two nodes; its ends stay. -/
def removeEdge (g : Digraph α ε) (a b : α) : Digraph α ε where
  nodes := g.nodes
  edges := g.edges.filter fun e => !joins a b e
  nodes_nodup := g.nodes_nodup
  ends_nodup := g.ends_nodup.sublist (List.filter_sublist.map _)
  source_mem := fun e he => g.source_mem e (List.mem_filter.1 he).1
  target_mem := fun e he => g.target_mem e (List.mem_filter.1 he).1

def outEdges (g : Digraph α ε) (v : α) : List (Edge α ε) := g.edges.filter fun e => e.source = v

def successors (g : Digraph α ε) (v : α) : List α := (g.outEdges v).map Edge.target

/-- The successors of every node, all of them by their numbers. -/
def adjacency (g : Digraph α ε) : List (List Nat) :=
  g.nodes.map fun v => (g.successors v).map fun w => g.nodes.idxOf w

def predecessors (g : Digraph α ε) (v : α) : List α :=
  (g.edges.filter fun e => e.target = v).map Edge.source

def inDegree (g : Digraph α ε) (v : α) : Nat := (g.predecessors v).length

/-- The edges grouped by the nodes they leave. -/
def edgesByNode (g : Digraph α ε) : List (Edge α ε) := g.nodes.flatMap g.outEdges

theorem mem_successors (g : Digraph α ε) (a b : α) :
    b ∈ g.successors a ↔ g.hasEdge a b = true := by
  rw [hasEdge_iff]
  simp only [successors, outEdges, List.mem_map, List.mem_filter, decide_eq_true_eq, Edge.ends,
    Prod.mk.injEq, and_assoc]

theorem mem_predecessors (g : Digraph α ε) (a b : α) :
    a ∈ g.predecessors b ↔ g.hasEdge a b = true := by
  rw [hasEdge_iff]
  simp only [predecessors, List.mem_map, List.mem_filter, decide_eq_true_eq, Edge.ends,
    Prod.mk.injEq, and_assoc]
  constructor
  · rintro ⟨e, he, ht, hs⟩; exact ⟨e, he, hs, ht⟩
  · rintro ⟨e, he, hs, ht⟩; exact ⟨e, he, ht, hs⟩

end Digraph

end ModuleAudit
