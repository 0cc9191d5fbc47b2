import Mathlib.Data.List.Chain
import Mathlib.Logic.Relation
import ModuleAudit.Digraph.BackEdge
import ModuleAudit.Proofs.Table

/-!
# The invariant of the back-edge search

`Move` lists what one step of the search can do, with the guard of each case.
Everything below about all runs is proved once per move and carried along by
`Reached.invariant`.

A state is well formed if its stack, its path and its table of positions tell
the same story. The moves keep states well formed, and each of them uses up
exactly one unit of the budget, so the budgeted run ends with nothing to do.
-/

namespace ModuleAudit.BackEdge.Search

variable {α : Type} [DecidableEq α] {succ : α → List α} {s t : Search α}

/-- What one step of a search can do. -/
inductive Move (succ : α → List α) (s : Search α) : Search α → Prop where
  /-- A fresh start becomes the root of a new tree. -/
  | enter {v : α} {starts : List α} (idle : s.stack = []) (next : s.starts = v :: starts)
      (fresh : v ∈ s.fresh) : Move succ s ({ s with starts }.visit succ v)
  /-- A start that an earlier tree has visited is passed over. -/
  | pass {v : α} {starts : List α} (idle : s.stack = []) (next : s.starts = v :: starts)
      (visited : v ∉ s.fresh) : Move succ s { s with starts }
  /-- A node without pending successors is left. -/
  | leave {v : α} {below : List (Frame α)} (top : s.stack = ⟨v, []⟩ :: below) :
      Move succ s (s.leave v below)
  /-- A fresh successor extends the path. -/
  | descend {v w : α} {pending : List α} {below : List (Frame α)}
      (top : s.stack = ⟨v, w :: pending⟩ :: below) (fresh : w ∈ s.fresh) :
      Move succ s ({ s with stack := ⟨v, pending⟩ :: below }.visit succ w)
  /-- A successor on the path closes a cycle. -/
  | close {v w : α} {pending : List α} {below : List (Frame α)} {place : Nat}
      (top : s.stack = ⟨v, w :: pending⟩ :: below) (visited : w ∉ s.fresh)
      (found : s.position.get? w = some place) :
      Move succ s { s with
        stack := ⟨v, pending⟩ :: below
        cycles := s.cycles ++ [s.path.drop place ++ [w]] }
  /-- A successor that has been left already is passed over. -/
  | ignore {v w : α} {pending : List α} {below : List (Frame α)}
      (top : s.stack = ⟨v, w :: pending⟩ :: below) (visited : w ∉ s.fresh)
      (absent : s.position.get? w = none) :
      Move succ s { s with stack := ⟨v, pending⟩ :: below }

theorem move_of_step (h : s.step succ = some t) : Move succ s t := by
  unfold step at h
  split at h
  · rename_i idle
    split at h
    · cases h
    · rename_i v starts next
      dsimp only at h
      split at h
      · rename_i fresh
        cases h
        exact .enter idle next fresh
      · rename_i visited
        cases h
        exact .pass idle next visited
  · rename_i v below top
    cases h
    exact .leave top
  · rename_i v w pending below top
    cases h
    unfold examine
    split
    · rename_i fresh
      exact .descend top fresh
    · rename_i visited
      split
      · rename_i place found
        exact .close top visited found
      · rename_i absent
        exact .ignore top visited absent

/-- A search that can do nothing has neither frames nor starts left. -/
theorem step_eq_none (h : s.step succ = none) : s.stack = [] ∧ s.starts = [] := by
  unfold step at h
  split at h
  · rename_i idle
    split at h
    · rename_i exhausted
      exact ⟨idle, exhausted⟩
    · cases h
  · cases h
  · cases h

/-! ## Every move costs one unit of the budget -/

theorem length_flatMap_erase (succ : α → List α) {fresh : List α} {v : α} (h : v ∈ fresh) :
    (succ v).length + ((fresh.erase v).flatMap succ).length = (fresh.flatMap succ).length := by
  have split : (fresh.flatMap succ).Perm ((v :: fresh.erase v).flatMap succ) :=
    (List.perm_cons_erase h).flatMap_right succ
  rw [split.length_eq, List.flatMap_cons, List.length_append]

theorem budget_visit {v : α} (fresh : v ∈ s.fresh) :
    (s.visit succ v).budget succ = s.budget succ := by
  have nodes : (s.fresh.erase v).length + 1 = s.fresh.length := by
    rw [List.length_erase_of_mem fresh]
    exact Nat.sub_add_cancel (List.length_pos_of_mem fresh)
  have edges := length_flatMap_erase succ fresh
  simp only [budget, visit, List.length_cons, List.flatMap_cons, List.length_append]
  omega

theorem budget_of_move (h : Move succ s t) : t.budget succ + 1 = s.budget succ := by
  cases h with
  | enter idle next fresh =>
    rw [budget_visit (by exact fresh)]
    simp only [budget, next, List.length_cons]
    omega
  | pass idle next visited =>
    simp only [budget, next, List.length_cons]
    omega
  | leave top =>
    simp only [budget, leave, top, List.length_cons, List.flatMap_cons, List.nil_append]
    omega
  | descend top fresh =>
    rw [budget_visit (by exact fresh)]
    simp only [budget, top, List.length_cons, List.flatMap_cons, List.length_append]
    omega
  | close top visited found =>
    simp only [budget, top, List.length_cons, List.flatMap_cons, List.length_append]
    omega
  | ignore top visited absent =>
    simp only [budget, top, List.length_cons, List.flatMap_cons, List.length_append]
    omega

/-- The states that a search of some nodes passes through. -/
def Reached (succ : α → List α) (nodes : List α) (s : Search α) : Prop :=
  Relation.ReflTransGen (Move succ) (start nodes) s

theorem reflTransGen_run (fuel : Nat) (s : Search α) :
    Relation.ReflTransGen (Move succ) s (s.run succ fuel) := by
  induction fuel generalizing s with
  | zero => exact .refl
  | succ fuel ih =>
    unfold run
    split
    · exact .refl
    · rename_i next hnext
      exact .head (move_of_step hnext) (ih next)

/-- With its budget as fuel a search runs to its end. -/
theorem step_run (fuel : Nat) (s : Search α) (enough : s.budget succ ≤ fuel) :
    (s.run succ fuel).step succ = none := by
  induction fuel generalizing s with
  | zero =>
    cases hnext : s.step succ with
    | none => exact hnext
    | some next =>
      have cost := budget_of_move (move_of_step hnext)
      omega
  | succ fuel ih =>
    unfold run
    split
    · assumption
    · rename_i next hnext
      have cost := budget_of_move (move_of_step hnext)
      exact ih next (by omega)

/-! ## Well-formed states -/

/-- The stack, the path and the positions of a state agree, and the path is a
walk of visited nodes. -/
structure WellFormed (succ : α → List α) (s : Search α) : Prop where
  path_eq : s.path = (s.stack.map Frame.node).reverse
  path_nodup : s.path.Nodup
  position_iff : ∀ v place, s.position.get? v = some place ↔ s.path[place]? = some v
  fresh_nodup : s.fresh.Nodup
  path_visited : ∀ v ∈ s.path, v ∉ s.fresh
  linked : s.path.IsChain fun v w => w ∈ succ v
  pending_suffix : ∀ frame ∈ s.stack, frame.pending <:+ succ frame.node

namespace WellFormed

/-- The node of the top frame is the last one of the path. -/
theorem path_eq_concat (h : s.WellFormed succ) {v : α} {pending : List α}
    {below : List (Frame α)} (top : s.stack = ⟨v, pending⟩ :: below) :
    s.path = (below.map Frame.node).reverse ++ [v] := by
  rw [h.path_eq, top, List.map_cons, List.reverse_cons]

theorem mem_path_of_top (h : s.WellFormed succ) {v : α} {pending : List α}
    {below : List (Frame α)} (top : s.stack = ⟨v, pending⟩ :: below) : v ∈ s.path := by
  simp [h.path_eq_concat top]

theorem mem_succ_of_pending (h : s.WellFormed succ) {v w : α} {pending : List α}
    {below : List (Frame α)} (top : s.stack = ⟨v, w :: pending⟩ :: below) : w ∈ succ v :=
  (h.pending_suffix ⟨v, w :: pending⟩ (by simp [top])).subset (by simp)

/-- A node has no position exactly when it is not on the path. -/
theorem position_eq_none_iff (h : s.WellFormed succ) (v : α) :
    s.position.get? v = none ↔ v ∉ s.path := by
  rw [← not_iff_not, not_not, ← ne_eq, Option.ne_none_iff_exists', List.mem_iff_getElem?]
  exact exists_congr fun place => h.position_iff v place

theorem start {nodes : List α} (nodup : nodes.Nodup) : (start nodes).WellFormed succ where
  path_eq := rfl
  path_nodup := List.nodup_nil
  position_iff := by simp [Search.start]
  fresh_nodup := nodup
  path_visited := by simp [Search.start]
  linked := List.isChain_nil
  pending_suffix := by simp [Search.start]

/-- The starts and the cycles found take no part in the agreement. -/
theorem of_same (h : s.WellFormed succ) (starts : List α) (cycles : List (List α)) :
    WellFormed succ { s with starts, cycles } where
  path_eq := h.path_eq
  path_nodup := h.path_nodup
  position_iff := h.position_iff
  fresh_nodup := h.fresh_nodup
  path_visited := h.path_visited
  linked := h.linked
  pending_suffix := h.pending_suffix

/-- Examining a successor takes it off the pending ones and nothing else. -/
theorem advance (h : s.WellFormed succ) {v w : α} {pending : List α} {below : List (Frame α)}
    (top : s.stack = ⟨v, w :: pending⟩ :: below) :
    WellFormed succ { s with stack := ⟨v, pending⟩ :: below } where
  path_eq := by simp [h.path_eq, top]
  path_nodup := h.path_nodup
  position_iff := h.position_iff
  fresh_nodup := h.fresh_nodup
  path_visited := h.path_visited
  linked := h.linked
  pending_suffix := by
    intro frame hframe
    rcases List.mem_cons.1 hframe with rfl | hframe
    · have longer : w :: pending <:+ succ v :=
        h.pending_suffix ⟨v, w :: pending⟩ (by simp [top])
      exact (List.suffix_cons w pending).trans longer
    · exact h.pending_suffix frame (by simp [top, hframe])

theorem visit (h : s.WellFormed succ) {v : α} (fresh : v ∈ s.fresh)
    (step : ∀ u ∈ s.path.getLast?, v ∈ succ u) : (s.visit succ v).WellFormed succ := by
  have absent : v ∉ s.path := fun hv => h.path_visited v hv fresh
  refine ⟨?_, ?_, ?_, ?_, ?_, ?_, ?_⟩
  · simp [Search.visit, h.path_eq]
  · exact List.nodup_append.2 ⟨h.path_nodup, by simp, fun a ha b hb e => by
      simp only [List.mem_singleton] at hb
      exact absent (hb ▸ e ▸ ha)⟩
  · intro w place
    simp only [Search.visit, Table.get?_insert]
    split
    · rename_i same
      subst same
      -- the new node stands at the end and nowhere else
      grind
    · rename_i other
      rw [h.position_iff]
      grind
  · exact h.fresh_nodup.erase v
  · intro w hw hfresh
    rcases List.mem_append.1 hw with hw | hw
    · exact h.path_visited w hw (List.mem_of_mem_erase hfresh)
    · simp only [List.mem_singleton] at hw
      subst hw
      exact h.fresh_nodup.not_mem_erase hfresh
  · exact h.linked.append (List.isChain_singleton v) (by simpa using step)
  · intro frame hframe
    rcases List.mem_cons.1 hframe with rfl | hframe
    · exact List.suffix_refl _
    · exact h.pending_suffix frame hframe

theorem leave (h : s.WellFormed succ) {v : α} {below : List (Frame α)}
    (top : s.stack = ⟨v, []⟩ :: below) : (s.leave v below).WellFormed succ := by
  have path := h.path_eq_concat top
  have nodup : ((below.map Frame.node).reverse ++ [v]).Nodup := path ▸ h.path_nodup
  have absent : v ∉ (below.map Frame.node).reverse := by
    intro hv
    exact (List.nodup_append.1 nodup).2.2 v hv v (by simp) rfl
  have front : s.path.dropLast = (below.map Frame.node).reverse := by
    rw [path, List.dropLast_concat]
  have inside : s.path.dropLast ⊆ s.path := s.path.dropLast_subset
  refine ⟨front, ?_, ?_, h.fresh_nodup, ?_, h.linked.dropLast, ?_⟩
  · exact h.path_nodup.sublist (List.dropLast_sublist _)
  · intro w place
    simp only [Search.leave, Table.get?_erase, front]
    split
    · rename_i same
      subst same
      simpa using fun e => absent (List.mem_of_getElem? e)
    · rename_i other
      rw [h.position_iff, path]
      grind
  · exact fun w hw => h.path_visited w (inside hw)
  · exact fun frame hframe => h.pending_suffix frame (by simp [top, show frame ∈ below from hframe])

/-- Every move keeps a state well formed. -/
theorem move (h : s.WellFormed succ) (hm : Move succ s t) : t.WellFormed succ := by
  cases hm with
  | enter idle next fresh =>
    have root : s.path = [] := by simp [h.path_eq, idle]
    exact (h.of_same _ s.cycles).visit fresh (by simp [root])
  | pass idle next visited => exact h.of_same _ s.cycles
  | leave top => exact h.leave top
  | @descend v w pending below top fresh =>
    refine (h.advance top).visit fresh fun u hu => ?_
    have last : v = u := by simpa [h.path_eq_concat top] using hu
    exact last ▸ h.mem_succ_of_pending top
  | close top visited found => exact (h.advance top).of_same s.starts _
  | ignore top visited absent => exact h.advance top

end WellFormed

namespace Reached

variable {nodes : List α}

theorem run (fuel : Nat) : Reached succ nodes ((start nodes).run succ fuel) :=
  reflTransGen_run fuel (start nodes)

theorem wellFormed (nodup : nodes.Nodup) (h : Reached succ nodes s) : s.WellFormed succ := by
  induction h with
  | refl => exact .start nodup
  | tail _ hm ih => exact ih.move hm

/-- What holds at the start and is kept by every move from a well-formed state
holds in every state that a search reaches. -/
theorem invariant {P : Search α → Prop} (nodup : nodes.Nodup) (init : P (start nodes))
    (keep : ∀ {s t : Search α}, s.WellFormed succ → P s → Move succ s t → P t)
    (h : Reached succ nodes s) : P s := by
  induction h with
  | refl => exact init
  | tail hs hm ih => exact keep (wellFormed nodup hs) ih hm

end Reached

end ModuleAudit.BackEdge.Search
