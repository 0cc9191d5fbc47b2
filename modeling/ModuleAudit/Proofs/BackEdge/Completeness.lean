import ModuleAudit.Proofs.BackEdge.Invariant
import ModuleAudit.Proofs.Walk

/-!
# The cycles that a search finds

Every list that the search records is a cycle, since it is cut out of the path
at the place of a node to which the last node of the path has an edge. This edge
is the last step of the recorded cycle.

Conversely, no cycle avoids all of these last steps. A node is left only after
all its successors have been examined, so the path followed by the nodes that
have been left, the latest first, puts the source of every other examined edge
before its target. A visit adds to this order, and leaving a node does not
change it: the node moves from the end of the path to the front of those left.
-/

namespace ModuleAudit.BackEdge

variable {α : Type} [DecidableEq α] {succ : α → List α} {nodes : List α}

/-- The last steps of some closed paths, each the edge that closed its path. -/
def closingSteps (cycles : List (List α)) : List (α × α) := cycles.filterMap Walk.lastStep

namespace Search

variable {s t : Search α}

/-! ## Soundness -/

section Close

variable {v w : α} {pending : List α} {below : List (Frame α)} {place : Nat}

/-- The path from the place of a node on starts with the node and ends with the
node of the top frame. -/
theorem WellFormed.drop_eq (h : s.WellFormed succ) (top : s.stack = ⟨v, w :: pending⟩ :: below)
    (found : s.position.get? w = some place) :
    (∃ rest, s.path.drop place = w :: rest) ∧ ∃ front, s.path.drop place = front ++ [v] := by
  have here : s.path[place]? = some w := (h.position_iff w place).1 found
  obtain ⟨inside, hw⟩ := List.getElem?_eq_some_iff.1 here
  refine ⟨⟨s.path.drop (place + 1), by rw [List.drop_eq_getElem_cons inside, hw]⟩, ?_⟩
  have path := h.path_eq_concat top
  refine ⟨(below.map Frame.node).reverse.drop place, ?_⟩
  rw [path, List.length_append, List.length_singleton] at inside
  rw [path, List.drop_append_of_le_length (by omega)]

theorem WellFormed.lastStep_close (h : s.WellFormed succ)
    (top : s.stack = ⟨v, w :: pending⟩ :: below) (found : s.position.get? w = some place) :
    Walk.lastStep (s.path.drop place ++ [w]) = some (v, w) := by
  obtain ⟨-, front, ends⟩ := h.drop_eq top found
  rw [ends, List.append_assoc]
  exact Walk.lastStep_concat_concat front v w

/-- What the search records is a cycle. -/
theorem WellFormed.isCycle_close (h : s.WellFormed succ)
    (top : s.stack = ⟨v, w :: pending⟩ :: below) (found : s.position.get? w = some place) :
    Walk.IsCycle (fun a b => b ∈ succ a) (s.path.drop place ++ [w]) := by
  obtain ⟨⟨rest, begins⟩, front, ends⟩ := h.drop_eq top found
  refine ⟨⟨?_, ?_, ?_⟩, ?_⟩
  · simp [begins]
  · simp [begins]
  · refine (h.linked.drop place).append (List.isChain_singleton w) ?_
    simpa [ends] using h.mem_succ_of_pending top
  · rw [List.dropLast_concat]
    exact h.path_nodup.sublist (List.drop_sublist _ _)

end Close

/-- Every recorded list is a cycle, at every moment of the search. -/
theorem Reached.isCycle (nodup : nodes.Nodup) (h : Reached succ nodes s) :
    ∀ c ∈ s.cycles, Walk.IsCycle (fun a b => b ∈ succ a) c := by
  refine h.invariant (P := fun s => ∀ c ∈ s.cycles, Walk.IsCycle _ c) nodup ?_ ?_
  · simp [Search.start]
  · intro s t formed genuine hm
    cases hm with
    | enter | pass | leave | descend | ignore => exact genuine
    | close top visited found =>
      intro c hc
      rcases List.mem_append.1 hc with hc | hc
      · exact genuine c hc
      · exact List.mem_singleton.1 hc ▸ formed.isCycle_close top found

/-! ## Completeness -/

def Awaits (s : Search α) (v w : α) : Prop := ∃ frame ∈ s.stack, frame.node = v ∧ w ∈ frame.pending

/-- What can be said of an edge from a visited node: it is still to be examined,
it has closed a cycle, or its source stands before its target in the order. -/
def Accounted (s : Search α) (order : List α) (v w : α) : Prop :=
  s.Awaits v w ∨ (v, w) ∈ closingSteps s.cycles ∨ [v, w].Sublist order

/-- The nodes left so far, the latest first, complete the path to an order that
accounts for every edge from a visited node. -/
structure Explored (succ : α → List α) (nodes : List α) (s : Search α) (finished : List α) :
    Prop where
  nodup : (s.path ++ finished).Nodup
  visited : ∀ v ∈ finished, v ∉ s.fresh
  covered : ∀ v ∈ nodes, v ∈ s.fresh ∨ v ∈ s.path ++ finished
  startable : ∀ v ∈ s.fresh, v ∈ s.starts
  accounted : ∀ v ∈ s.path ++ finished, ∀ w ∈ succ v, s.Accounted (s.path ++ finished) v w

omit [DecidableEq α] in
theorem Accounted.mono {order order' : List α} {v w : α} (h : s.Accounted order v w)
    (awaits : s.Awaits v w → t.Accounted order' v w)
    (cycles : closingSteps s.cycles ⊆ closingSteps t.cycles) (longer : order.Sublist order') :
    t.Accounted order' v w := by
  rcases h with h | h | h
  · exact awaits h
  · exact .inr (.inl (cycles h))
  · exact .inr (.inr (h.trans longer))

namespace Explored

variable {finished : List α}

omit [DecidableEq α] in
theorem start : Explored succ nodes (start nodes) [] where
  nodup := by simp [Search.start]
  visited := by simp
  covered := fun v hv => .inl hv
  startable := fun v hv => hv
  accounted := by simp [Search.start]

/-- A visit puts the new node between the path and the nodes left. Its own edges
all wait, and an edge that led to it is accounted for by the order. -/
theorem visit (h : s.Explored succ nodes finished) (formed : s.WellFormed succ)
    {w : α} (fresh : w ∈ s.fresh) (stack : List (Frame α)) (starts : List α)
    (startable : ∀ v ∈ s.fresh, v ≠ w → v ∈ starts)
    (awaits : ∀ u x, s.Awaits u x →
      ({ s with stack, starts }.visit succ w).Awaits u x ∨ u ∈ s.path ∧ x = w) :
    Explored succ nodes ({ s with stack, starts }.visit succ w) finished := by
  have absent : w ∉ s.path ++ finished := by
    intro hw
    rcases List.mem_append.1 hw with hw | hw
    · exact formed.path_visited w hw fresh
    · exact h.visited w hw fresh
  have longer : (s.path ++ finished).Sublist (s.path ++ [w] ++ finished) :=
    (List.sublist_append_left _ _).append_right _
  have middle : (s.path ++ [w] ++ finished).Perm (w :: (s.path ++ finished)) := by
    simp [List.perm_middle]
  refine ⟨?_, ?_, ?_, ?_, ?_⟩
  · exact middle.nodup_iff.2 (List.nodup_cons.2 ⟨absent, h.nodup⟩)
  · exact fun v hv hf => h.visited v hv (List.mem_of_mem_erase hf)
  · intro v hv
    by_cases new : v = w
    · exact .inr (middle.mem_iff.2 (by simp [new]))
    · exact (h.covered v hv).imp (fun hf => (List.mem_erase_of_ne new).2 hf) (longer.subset ·)
  · intro v hv
    have new : v ≠ w := fun e => formed.fresh_nodup.not_mem_erase (e ▸ hv)
    exact startable v (List.mem_of_mem_erase hv) new
  · intro u hu x hx
    rcases List.mem_cons.1 (middle.mem_iff.1 hu) with rfl | hu
    · exact .inl ⟨⟨u, succ u⟩, List.mem_cons_self, rfl, hx⟩
    · refine (h.accounted u hu x hx).mono (fun waiting => ?_) (List.Subset.refl _) longer
      rcases awaits u x waiting with still | ⟨onPath, rfl⟩
      · exact .inl still
      · exact .inr (.inr ((pair_sublist_append onPath (by simp)).trans
          (List.sublist_append_left _ finished)))

omit [DecidableEq α] in
/-- Examining a visited successor settles one edge and changes no order. -/
theorem advance (h : s.Explored succ nodes finished) {v w : α} {pending : List α}
    {below : List (Frame α)} (top : s.stack = ⟨v, w :: pending⟩ :: below) (cycles : List (List α))
    (more : closingSteps s.cycles ⊆ closingSteps cycles)
    (settled : (v, w) ∈ closingSteps cycles ∨ [v, w].Sublist (s.path ++ finished)) :
    Explored succ nodes { s with stack := ⟨v, pending⟩ :: below, cycles } finished where
  nodup := h.nodup
  visited := h.visited
  covered := h.covered
  startable := h.startable
  accounted := by
    intro u hu x hx
    refine (h.accounted u hu x hx).mono ?_ more (List.Sublist.refl _)
    rintro ⟨frame, hframe, rfl, hpending⟩
    rw [top] at hframe
    rcases List.mem_cons.1 hframe with rfl | hframe
    · rcases List.mem_cons.1 hpending with rfl | hpending
      · exact .inr settled
      · exact .inl ⟨_, List.mem_cons_self, rfl, hpending⟩
    · exact .inl ⟨frame, List.mem_cons_of_mem _ hframe, rfl, hpending⟩

/-- Leaving a node keeps the order, and the node has no edge that waits. -/
theorem leave (h : s.Explored succ nodes finished) (formed : s.WellFormed succ) {v : α}
    {below : List (Frame α)} (top : s.stack = ⟨v, []⟩ :: below) :
    Explored succ nodes (s.leave v below) (v :: finished) := by
  have same : s.path.dropLast ++ v :: finished = s.path ++ finished := by
    rw [formed.path_eq_concat top, List.dropLast_concat, List.append_assoc, List.singleton_append]
  have left : v ∉ s.fresh := formed.path_visited v (formed.mem_path_of_top top)
  refine ⟨same ▸ h.nodup, ?_, same ▸ h.covered, h.startable, ?_⟩
  · exact List.forall_mem_cons.2 ⟨left, h.visited⟩
  · change ∀ u ∈ s.path.dropLast ++ v :: finished, ∀ x ∈ succ u,
      Accounted _ (s.path.dropLast ++ v :: finished) u x
    rw [same]
    intro u hu x hx
    refine (h.accounted u hu x hx).mono ?_ (List.Subset.refl _) (List.Sublist.refl _)
    rintro ⟨frame, hframe, rfl, hpending⟩
    rw [top] at hframe
    rcases List.mem_cons.1 hframe with rfl | hframe
    · simp at hpending
    · exact .inl ⟨frame, hframe, rfl, hpending⟩

/-- Every move leaves some order behind that accounts for the examined edges. -/
theorem move (listed : Lists nodes succ) (h : s.Explored succ nodes finished)
    (formed : s.WellFormed succ) (hm : Move succ s t) :
    ∃ finished', t.Explored succ nodes finished' := by
  cases hm with
  | @enter v starts idle next fresh =>
    refine ⟨finished, h.visit formed fresh s.stack starts ?_ ?_⟩
    · intro u hu new
      exact (List.mem_cons.1 (next ▸ h.startable u hu)).resolve_left new
    · rintro u x ⟨frame, hframe, -⟩
      simp [idle] at hframe
  | @pass v starts idle next visited =>
    refine ⟨finished, h.nodup, h.visited, h.covered, fun u hu => ?_, h.accounted⟩
    have other : u ≠ v := fun e => visited (e ▸ hu)
    exact (List.mem_cons.1 (next ▸ h.startable u hu)).resolve_left other
  | leave top => exact ⟨_, h.leave formed top⟩
  | @descend v w pending below top fresh =>
    refine ⟨finished, h.visit formed fresh _ s.starts (fun u hu _ => h.startable u hu) ?_⟩
    rintro u x ⟨frame, hframe, rfl, hpending⟩
    rw [top] at hframe
    rcases List.mem_cons.1 hframe with rfl | hframe
    · rcases List.mem_cons.1 hpending with rfl | hpending
      · exact .inr ⟨formed.mem_path_of_top top, rfl⟩
      · exact .inl ⟨⟨v, pending⟩, by simp [Search.visit], rfl, hpending⟩
    · exact .inl ⟨frame, by simp [Search.visit, hframe], rfl, hpending⟩
  | @close v w pending below place top visited found =>
    have closing : (v, w) ∈ closingSteps (s.cycles ++ [s.path.drop place ++ [w]]) :=
      List.mem_filterMap.2 ⟨_, by simp, formed.lastStep_close top found⟩
    refine ⟨finished, h.advance top _ ?_ (.inl closing)⟩
    rw [closingSteps, closingSteps, List.filterMap_append]
    exact List.subset_append_left _ _
  | @ignore v w pending below top visited absent =>
    have inside : w ∈ nodes := listed.target_mem v w (formed.mem_succ_of_pending top)
    have placed : w ∈ s.path ++ finished := (h.covered w inside).resolve_left visited
    have left : w ∈ finished :=
      (List.mem_append.1 placed).resolve_left ((formed.position_eq_none_iff w).1 absent)
    have ordered := pair_sublist_append (formed.mem_path_of_top top) left
    exact ⟨finished, h.advance top s.cycles (List.Subset.refl _) (.inr ordered)⟩

end Explored

theorem Reached.exists_explored (listed : Lists nodes succ) (h : Reached succ nodes s) :
    ∃ finished, s.Explored succ nodes finished := by
  refine h.invariant (P := fun s => ∃ finished, s.Explored succ nodes finished) listed.nodup
    ⟨[], .start⟩ ?_
  rintro s t formed ⟨finished, explored⟩ hm
  exact explored.move listed formed hm

end Search

/-! ## The result of a whole search -/

/-- Every list that a search returns is a cycle. -/
theorem isCycle_of_mem_cycles (nodup : nodes.Nodup) {c : List α} (hc : c ∈ cycles succ nodes) :
    Walk.IsCycle (fun a b => b ∈ succ a) c :=
  (Search.Reached.run _).isCycle nodup c hc

/-- One order of the nodes has the source of every edge before its target, the
closing edges apart. -/
theorem exists_order (listed : Lists nodes succ) :
    ∃ order : List α, order.Nodup ∧ ∀ v, ∀ w ∈ succ v,
      (v, w) ∈ closingSteps (cycles succ nodes) ∨ [v, w].Sublist order := by
  let final := (Search.start nodes).run succ ((Search.start nodes).budget succ)
  have reached : Search.Reached succ nodes final := .run _
  have ended : final.step succ = none := Search.step_run _ _ (Nat.le_refl _)
  obtain ⟨idle, exhausted⟩ := Search.step_eq_none ended
  obtain ⟨finished, explored⟩ := reached.exists_explored listed
  refine ⟨final.path ++ finished, explored.nodup, fun v w hw => ?_⟩
  -- no start is left, so no node is fresh
  have placed : v ∈ final.path ++ finished := by
    refine (explored.covered v (listed.source_mem v w hw)).resolve_left fun fresh => ?_
    have start : v ∈ final.starts := explored.startable v fresh
    simp [exhausted] at start
  rcases explored.accounted v placed w hw with ⟨frame, hframe, -⟩ | settled
  · simp [idle] at hframe
  · exact settled

/-- Without the closing edges the graph has no cycle. -/
theorem acyclic_of_not_mem_closingSteps (listed : Lists nodes succ) :
    Acyclic fun v w => w ∈ succ v ∧ (v, w) ∉ closingSteps (cycles succ nodes) := by
  obtain ⟨order, nodup, ordered⟩ := exists_order listed
  exact .of_order nodup fun v w ⟨edge, kept⟩ => (ordered v w edge).resolve_left kept

/-- Every closed walk takes a closing edge. -/
theorem exists_closingStep_mem_steps (listed : Lists nodes succ) {walk : List α}
    (closed : Walk.IsClosed (fun a b => b ∈ succ a) walk) :
    ∃ e ∈ closingSteps (cycles succ nodes), e ∈ Walk.steps walk := by
  by_contra avoided
  have kept : walk.IsChain fun v w => w ∈ succ v ∧ (v, w) ∉ closingSteps (cycles succ nodes) :=
    (Walk.isChain_iff_steps walk).2 fun e he =>
      ⟨(Walk.isChain_iff_steps walk).1 closed.linked e he, fun hc => avoided ⟨e, hc, he⟩⟩
  exact Acyclic.iff_forall_not_isClosed.1 (acyclic_of_not_mem_closingSteps listed) walk
    (closed.mono kept)

/-- A search finds nothing exactly when there is no cycle. -/
theorem cycles_eq_nil_iff (listed : Lists nodes succ) :
    cycles succ nodes = [] ↔ Acyclic fun v w => w ∈ succ v := by
  constructor
  · intro nothing
    have acyclic := acyclic_of_not_mem_closingSteps listed
    simpa [nothing, closingSteps] using acyclic
  · intro acyclic
    refine List.eq_nil_iff_forall_not_mem.2 fun c hc => ?_
    have cycle := isCycle_of_mem_cycles listed.nodup hc
    exact Acyclic.iff_forall_not_isClosed.1 acyclic c cycle.toIsClosed

/-! ## Graphs given by adjacency lists -/

/-- There is an edge between two numbers of an adjacency list. -/
def Adjacent (adjacency : List (List Nat)) (v w : Nat) : Prop := w ∈ adjacency.getD v []

/-- Every target of an adjacency list is the number of a node. -/
def InRange (adjacency : List (List Nat)) : Prop :=
  ∀ row ∈ adjacency, ∀ w ∈ row, w < adjacency.length

instance (adjacency : List (List Nat)) : Decidable (InRange adjacency) :=
  inferInstanceAs (Decidable (∀ row ∈ adjacency, ∀ w ∈ row, w < adjacency.length))

theorem lists_range {adjacency : List (List Nat)} (inRange : InRange adjacency) :
    Lists (List.range adjacency.length) fun v => adjacency.getD v [] := by
  have row (v : Nat) (w : Nat) (hw : w ∈ adjacency.getD v []) :
      v < adjacency.length ∧ adjacency.getD v [] ∈ adjacency := by
    by_cases inside : v < adjacency.length
    · exact ⟨inside, by simp [inside]⟩
    · simp [inside] at hw
  exact {
    nodup := List.nodup_range
    source_mem := fun v w hw => List.mem_range.2 (row v w hw).1
    target_mem := fun v w hw => List.mem_range.2 (inRange _ (row v w hw).2 w hw) }

/-- What is reported are cycles of the graph. Removing the edges that close them
leaves no cycle at all, and every closed walk takes one of them. Nothing is
reported exactly when the graph has no cycle. -/
theorem acyclic_without_closing_edges (adjacency : List (List Nat)) (inRange : InRange adjacency) :
    (∀ c ∈ cyclesOfAdjacency adjacency, Walk.IsCycle (Adjacent adjacency) c) ∧
      Acyclic (fun v w => Adjacent adjacency v w ∧
        (v, w) ∉ closingSteps (cyclesOfAdjacency adjacency)) ∧
      (∀ walk, Walk.IsClosed (Adjacent adjacency) walk →
        ∃ e ∈ closingSteps (cyclesOfAdjacency adjacency), e ∈ Walk.steps walk) ∧
      (cyclesOfAdjacency adjacency = [] ↔ Acyclic (Adjacent adjacency)) := by
  have listed := lists_range inRange
  refine ⟨?_, acyclic_of_not_mem_closingSteps listed, ?_, cycles_eq_nil_iff listed⟩
  · intro c hc
    exact isCycle_of_mem_cycles listed.nodup hc
  · intro walk closed
    exact exists_closingStep_mem_steps listed closed

/-- Two paths share their end, where one edge closes a cycle through the first of
them and another is a loop. -/
theorem acyclic_without_closing_edges_shared :
    InRange [[1, 2], [3], [3], [0, 3]] ∧
      closingSteps (cyclesOfAdjacency [[1, 2], [3], [3], [0, 3]]) = [(3, 0), (3, 3)] ∧
      Acyclic (fun v w => Adjacent [[1, 2], [3], [3], [0, 3]] v w ∧
        (v, w) ∉ closingSteps (cyclesOfAdjacency [[1, 2], [3], [3], [0, 3]])) :=
  ⟨by decide, by decide, (acyclic_without_closing_edges _ (by decide)).2.1⟩

end ModuleAudit.BackEdge
