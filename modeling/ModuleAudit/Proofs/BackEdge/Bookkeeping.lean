import Mathlib.Data.List.Perm.Basic
import ModuleAudit.Proofs.BackEdge.Completeness

/-!
# The bookkeeping of a search

A search of an adjacency list keeps marks, a stack of nodes with cursors, a path and a
table of positions. `strictStep` makes one step with these and stops at the first thing
that is not there: an index outside of a list, a position that was never noted, the last
node of an empty path. In the states that a search reaches nothing is missing, and the
strict step is the step of the search.

A step puts a node on the stack, takes one off, moves a cursor over one slot of the
adjacency list, or passes one start. What it pushes was fresh before and what it examines
was open, and neither is so afterwards. Over a whole search every node is therefore pushed
once and every slot is examined once.
-/

namespace ModuleAudit.BackEdge

section Events

variable {α : Type} [DecidableEq α] {succ : α → List α} {nodes : List α}

/-- The place of the successor that a frame examines next. -/
def Frame.cursor (succ : α → List α) (frame : Frame α) : Nat :=
  (succ frame.node).length - frame.pending.length

/-- The slots of a node from a place on: the places of its successors, each with the node. -/
def slotsFrom (succ : α → List α) (v : α) (place : Nat) : List (α × Nat) :=
  ((List.range (succ v).length).drop place).map fun i => (v, i)

namespace Search

variable {s t : Search α}

/-- The node that the next step puts on the stack, if it puts one there. -/
def pushed? (succ : α → List α) (s : Search α) : Option α :=
  match s.step succ with
  | some t => if s.stack.length < t.stack.length then t.stack.head?.map Frame.node else none
  | none => none

/-- The slot that the next step examines, if it examines one. -/
def slot? (succ : α → List α) (s : Search α) : Option (α × Nat) :=
  match s.stack with
  | [] => none
  | frame :: _ =>
    if frame.cursor succ < (succ frame.node).length then some (frame.node, frame.cursor succ)
    else none

def openSlots (succ : α → List α) (s : Search α) : List (α × Nat) :=
  (s.stack.flatMap fun frame => slotsFrom succ frame.node (frame.cursor succ)) ++
    s.fresh.flatMap fun v => slotsFrom succ v 0

/-! ## When a search is over -/

omit [DecidableEq α] in
theorem spent (none : s.budget succ = 0) : s.stack = [] ∧ s.fresh = [] := by
  unfold budget at none
  exact ⟨List.eq_nil_of_length_eq_zero (by omega), List.eq_nil_of_length_eq_zero (by omega)⟩

/-- A search is over exactly when its budget is spent. -/
theorem Reached.step_eq_none_iff (listed : Lists nodes succ) (h : Reached succ nodes s) :
    s.step succ = none ↔ s.budget succ = 0 := by
  constructor
  · intro ended
    obtain ⟨idle, exhausted⟩ := step_eq_none ended
    obtain ⟨finished, explored⟩ := h.exists_explored listed
    -- every fresh node would be a start
    have fresh : s.fresh = [] := List.eq_nil_iff_forall_not_mem.2 fun v hv => by
      simpa [exhausted] using explored.startable v hv
    simp [budget, idle, exhausted, fresh]
  · intro none
    cases next : s.step succ with
    | none => rfl
    | some t =>
      have cost := budget_of_move (move_of_step next)
      omega

theorem run_of_step_eq_some (next : s.step succ = some t) (fuel : Nat) :
    s.run succ (fuel + 1) = t.run succ fuel := by
  rw [run, next]

theorem run_of_step_eq_none (ended : s.step succ = none) (fuel : Nat) : s.run succ fuel = s := by
  cases fuel with
  | zero => rfl
  | succ fuel => rw [run, ended]

theorem Reached.next (h : Reached succ nodes s) (next : s.step succ = some t) :
    Reached succ nodes t :=
  h.tail (move_of_step next)

/-- Every step of a run takes one unit off the budget. -/
theorem Reached.budget_run (listed : Lists nodes succ) (h : Reached succ nodes s) (fuel : Nat) :
    (s.run succ fuel).budget succ = s.budget succ - fuel := by
  induction fuel generalizing s with
  | zero => rfl
  | succ fuel ih =>
    cases next : s.step succ with
    | none => rw [run_of_step_eq_none next, (h.step_eq_none_iff listed).1 next, Nat.zero_sub]
    | some t =>
      have cost := budget_of_move (move_of_step next)
      rw [run_of_step_eq_some next, ih (h.next next)]
      omega

/-! ## What a run pushes and examines -/

/-- Where every step takes its event out of a store that is empty in the end, the events of a
run are what was in the store at the beginning. -/
theorem Reached.perm_events {β : Type} {event : Search α → Option β}
    {store : Search α → List β} (listed : Lists nodes succ)
    (emptied : ∀ s, s.budget succ = 0 → store s = [])
    (taken : ∀ s t, s.WellFormed succ → s.step succ = some t →
      (store s).Perm ((event s).toList ++ store t))
    (h : Reached succ nodes s) :
    ((List.range (s.budget succ)).filterMap fun k => event (s.run succ k)).Perm (store s) := by
  generalize spare : s.budget succ = n
  induction n generalizing s with
  | zero =>
    rw [emptied s spare]
    exact .nil
  | succ n ih =>
    cases next : s.step succ with
    | none =>
      have none := (h.step_eq_none_iff listed).1 next
      omega
    | some t =>
      have cost := budget_of_move (move_of_step next)
      have rest := ih (h.next next) (by omega)
      have first := taken s t (h.wellFormed listed.nodup) next
      have here : s.run succ 0 = s := rfl
      rw [List.range_succ_eq_map, List.filterMap_cons, List.filterMap_map, here]
      simp only [Function.comp_def, run_of_step_eq_some next]
      refine .trans ?_ first.symm
      cases event s with
      | none => exact rest
      | some e => exact rest.cons e

/-- The node that a step pushes is fresh and then no longer. -/
theorem fresh_perm (next : s.step succ = some t) :
    s.fresh.Perm ((s.pushed? succ).toList ++ t.fresh) := by
  have moved := move_of_step next
  rw [pushed?, next]
  cases moved with
  | enter idle waiting fresh => simpa [visit] using List.perm_cons_erase fresh
  | pass => simp
  | @leave v below top =>
    have shorter : ¬ below.length + 1 < below.length := by omega
    simp [leave, top, shorter]
  | descend top fresh => simpa [visit, top] using List.perm_cons_erase fresh
  | close top => simp [top]
  | ignore top => simp [top]

omit [DecidableEq α] in
theorem slot?_of_idle (idle : s.stack = []) : s.slot? succ = none := by
  rw [slot?, idle]

omit [DecidableEq α] in
theorem slot?_of_top {frame : Frame α} {below : List (Frame α)} (top : s.stack = frame :: below) :
    s.slot? succ =
      if frame.cursor succ < (succ frame.node).length then some (frame.node, frame.cursor succ)
      else none := by
  rw [slot?, top]

/-- A visit turns the slots of a fresh node into those of its frame. -/
theorem openSlots_visit {v : α} (fresh : v ∈ s.fresh) :
    (s.openSlots succ).Perm ((s.visit succ v).openSlots succ) := by
  have chosen := (List.perm_cons_erase fresh).flatMap_right fun v => slotsFrom succ v 0
  have first : Frame.cursor succ ⟨v, succ v⟩ = 0 := Nat.sub_self _
  simp only [openSlots, visit, List.flatMap_cons, first, List.append_assoc]
  exact (chosen.append_left _).trans (List.perm_append_comm_assoc _ _ _)

section Advance

variable {v w : α} {pending : List α} {below : List (Frame α)}

omit [DecidableEq α] in
/-- The slots of a node from a cursor on begin with the one at the cursor. -/
theorem slotsFrom_cursor (inside : (w :: pending).length ≤ (succ v).length) :
    Frame.cursor succ ⟨v, w :: pending⟩ < (succ v).length ∧
      slotsFrom succ v (Frame.cursor succ ⟨v, w :: pending⟩) =
        (v, Frame.cursor succ ⟨v, w :: pending⟩) ::
          slotsFrom succ v (Frame.cursor succ ⟨v, pending⟩) := by
  have next : Frame.cursor succ ⟨v, pending⟩ = Frame.cursor succ ⟨v, w :: pending⟩ + 1 := by
    simp only [Frame.cursor, List.length_cons] at inside ⊢
    omega
  have short : Frame.cursor succ ⟨v, w :: pending⟩ < (succ v).length := by
    simp only [Frame.cursor, List.length_cons] at inside ⊢
    omega
  refine ⟨short, ?_⟩
  rw [slotsFrom, List.drop_eq_getElem_cons (by simpa using short), List.map_cons, next,
    List.getElem_range]
  rfl

/-- Examining a successor takes the slot at the cursor off the open ones. -/
theorem openSlots_advance (formed : s.WellFormed succ)
    (top : s.stack = ⟨v, w :: pending⟩ :: below) (cycles : List (List α)) :
    s.openSlots succ = (s.slot? succ).toList ++
      openSlots succ { s with stack := ⟨v, pending⟩ :: below, cycles } := by
  have inside : (w :: pending).length ≤ (succ v).length :=
    (formed.pending_suffix ⟨v, w :: pending⟩ (by simp [top])).length_le
  obtain ⟨short, slots⟩ := slotsFrom_cursor inside
  rw [slot?_of_top top, if_pos short]
  simp only [openSlots, top, List.flatMap_cons, slots]
  rfl

end Advance

/-- The slot that a step examines is open and then no longer. -/
theorem openSlots_perm (formed : s.WellFormed succ) (next : s.step succ = some t) :
    (s.openSlots succ).Perm ((s.slot? succ).toList ++ t.openSlots succ) := by
  cases move_of_step next with
  | @enter v starts idle waiting fresh =>
    rw [slot?_of_idle idle]
    exact openSlots_visit (s := { s with starts }) fresh
  | pass idle waiting visited =>
    rw [slot?_of_idle idle]
    exact .refl _
  | @leave v below top =>
    have cursor : Frame.cursor succ ⟨v, []⟩ = (succ v).length := rfl
    have slot : s.slot? succ = none := by
      rw [slot?_of_top top, cursor, if_neg (Nat.lt_irrefl _)]
    have done : slotsFrom succ v (succ v).length = [] := by simp [slotsFrom]
    rw [slot]
    simp [openSlots, top, leave, cursor, done]
  | descend top fresh =>
    rw [openSlots_advance formed top s.cycles]
    exact (openSlots_visit (by exact fresh)).append_left _
  | close top visited found => rw [openSlots_advance formed top]
  | ignore top visited absent => rw [openSlots_advance formed top s.cycles]

/-! ## Where a search is -/

/-- The starts, the fresh nodes and the path of a search are among the nodes searched. -/
structure Within (nodes : List α) (s : Search α) : Prop where
  starts : s.starts ⊆ nodes
  fresh : s.fresh ⊆ nodes
  path : s.path ⊆ nodes

theorem Within.visit (h : s.Within nodes) (stack : List (Frame α)) {starts : List α}
    (later : starts ⊆ nodes) {v : α} (fresh : v ∈ s.fresh) :
    ({ s with stack, starts }.visit succ v).Within nodes where
  starts := later
  fresh := fun _ hu => h.fresh (List.mem_of_mem_erase hu)
  path := List.append_subset.2 ⟨h.path, by simpa using h.fresh fresh⟩

theorem Within.move (h : s.Within nodes) (moved : Move succ s t) : t.Within nodes := by
  cases moved with
  | @enter v starts idle next fresh =>
    have later : starts ⊆ nodes := fun u hu => h.starts (next ▸ List.mem_cons_of_mem v hu)
    exact h.visit _ later fresh
  | @pass v starts idle next visited =>
    exact ⟨fun u hu => h.starts (next ▸ List.mem_cons_of_mem v hu), h.fresh, h.path⟩
  | leave top => exact ⟨h.starts, h.fresh, fun u hu => h.path (List.mem_of_mem_dropLast hu)⟩
  | descend top fresh => exact h.visit _ h.starts fresh
  | close top visited found => exact ⟨h.starts, h.fresh, h.path⟩
  | ignore top visited absent => exact ⟨h.starts, h.fresh, h.path⟩

theorem Reached.within (h : Reached succ nodes s) : s.Within nodes := by
  induction h with
  | refl => exact ⟨List.Subset.refl _, List.Subset.refl _, List.nil_subset _⟩
  | tail _ moved within => exact within.move moved

/-- Between two trees nothing is left of the path and of the positions. -/
theorem WellFormed.idle (h : s.WellFormed succ) (idle : s.stack = []) :
    s.path = [] ∧ s.position = .empty := by
  have path : s.path = [] := by simp [h.path_eq, idle]
  refine ⟨path, Table.ext (List.eq_nil_iff_forall_not_mem.2 fun e listed => ?_)⟩
  rw [Table.mem_entries_iff, h.position_iff, path] at listed
  cases listed

end Search

end Events

/-! ## Steps that can fail -/

/-- What may be missing in a step. -/
inductive Fault where
  | index (place : Nat)
  | position (node : Nat)
  | emptyPath

def item {β : Type} (items : List β) (place : Nat) : Except Fault β :=
  match items[place]? with
  | some b => .ok b
  | none => .error (.index place)

def positionOf (position : Table Nat Nat) (v : Nat) : Except Fault Nat :=
  match position.get? v with
  | some place => .ok place
  | none => .error (.position v)

/-- The positions without that of a node, which must be there. -/
def forget (position : Table Nat Nat) (v : Nat) : Except Fault (Table Nat Nat) :=
  if position.contains v then .ok (position.erase v) else .error (.position v)

def shorten : List Nat → Except Fault (List Nat)
  | [] => .error .emptyPath
  | v :: path => .ok (v :: path).dropLast

/-- The row of a node, empty for numbers outside of the list. -/
def rowOf (adjacency : List (List Nat)) (v : Nat) : List Nat := adjacency.getD v []

theorem item_of_getElem? {β : Type} {items : List β} {place : Nat} {b : β}
    (found : items[place]? = some b) : item items place = .ok b := by
  rw [item, found]

namespace Search

/-- Whether each of the nodes 0, 1, 2 and so on has been visited. -/
def marks (adjacency : List (List Nat)) (s : Search Nat) : List Bool :=
  (List.range adjacency.length).map fun v => !decide (v ∈ s.fresh)

/-- One step of a search of an adjacency list, or none when it is over. It fails where an
index is out of range, a position is missing or the path has no last node. -/
def strictStep (adjacency : List (List Nat)) (s : Search Nat) :
    Except Fault (Option (Search Nat)) :=
  match s.stack with
  | [] =>
    match s.starts with
    | [] => .ok none
    | v :: starts => do
      let visited ← item (s.marks adjacency) v
      let s := { s with starts }
      .ok (some (if visited then s else s.visit (rowOf adjacency) v))
  | frame :: below => do
    let row ← item adjacency frame.node
    let cursor := row.length - frame.pending.length
    if cursor < row.length then
      let w ← item row cursor
      let s := { s with stack := ⟨frame.node, row.drop (cursor + 1)⟩ :: below }
      let visited ← item (s.marks adjacency) w
      if !visited then .ok (some (s.visit (rowOf adjacency) w))
      else if s.position.contains w then
        let place ← positionOf s.position w
        .ok (some { s with cycles := s.cycles ++ [s.path.drop place ++ [w]] })
      else .ok (some s)
    else
      let path ← shorten s.path
      let position ← forget s.position frame.node
      .ok (some { s with stack := below, path, position })

variable {adjacency : List (List Nat)} {s : Search Nat}

theorem item_row {v : Nat} (inside : v < adjacency.length) :
    item adjacency v = .ok (rowOf adjacency v) :=
  item_of_getElem? (by rw [rowOf, List.getD, List.getElem?_eq_getElem inside, Option.getD_some])

theorem item_marks {v : Nat} (inside : v < adjacency.length) :
    item (s.marks adjacency) v = .ok (!decide (v ∈ s.fresh)) :=
  item_of_getElem? (by simp [marks, inside])

theorem strictStep_of_idle (idle : s.stack = [])
    (inside : ∀ v ∈ s.starts, v < adjacency.length) :
    s.strictStep adjacency = .ok (s.step (rowOf adjacency)) := by
  cases waiting : s.starts with
  | nil => rw [strictStep, step, idle, waiting]
  | cons v starts =>
    have marked := item_marks (s := s) (inside v (by simp [waiting]))
    rw [strictStep, step, idle, waiting]
    by_cases fresh : v ∈ s.fresh
    · simp [marked, fresh, bind, Except.bind]
    · simp [marked, fresh, bind, Except.bind]

section Top

variable {v w : Nat} {pending : List Nat} {below : List (Frame Nat)}

/-- A node that is left ends the path and has a position. -/
theorem strictStep_of_leave (formed : s.WellFormed (rowOf adjacency))
    (inside : v < adjacency.length) (top : s.stack = ⟨v, []⟩ :: below) :
    s.strictStep adjacency = .ok (s.step (rowOf adjacency)) := by
  have onPath := formed.mem_path_of_top top
  have shortened : shorten s.path = .ok s.path.dropLast := by
    obtain ⟨first, rest, path⟩ := List.exists_cons_of_ne_nil (List.ne_nil_of_mem onPath)
    rw [path, shorten]
  have noted : s.position.contains v = true := by
    rw [Table.contains_eq_isSome, ← Option.ne_none_iff_isSome, ne_eq,
      formed.position_eq_none_iff, not_not]
    exact onPath
  rw [strictStep, step, top]
  simp [item_row inside, shortened, forget, noted, bind, Except.bind, leave]

/-- The successor that is examined is the one at the cursor. -/
theorem strictStep_of_pending (formed : s.WellFormed (rowOf adjacency))
    (inside : v < adjacency.length) (target : w < adjacency.length)
    (top : s.stack = ⟨v, w :: pending⟩ :: below) :
    s.strictStep adjacency = .ok (s.step (rowOf adjacency)) := by
  have found := item_row inside
  have suffix : w :: pending <:+ rowOf adjacency v :=
    formed.pending_suffix ⟨v, w :: pending⟩ (by simp [top])
  generalize rowOf adjacency v = row at found suffix
  have short : row.length - (w :: pending).length < row.length := by
    have := suffix.length_le
    simp only [List.length_cons] at this ⊢
    omega
  have left := (List.suffix_iff_eq_drop.1 suffix).symm
  have slot : item row (row.length - (w :: pending).length) = .ok w := by
    refine item_of_getElem? ?_
    rw [← List.head?_drop, left, List.head?_cons]
  have rest : row.drop (row.length - (w :: pending).length + 1) = pending := by
    rw [← List.tail_drop, left, List.tail_cons]
  rw [strictStep, step, top]
  simp only [found, bind, Except.bind, if_pos short, slot, rest, item_marks target,
    Bool.not_not, decide_eq_true_eq, examine]
  split
  · rfl
  · rw [Table.contains_eq_isSome]
    cases found : s.position.get? w with
    | none => rfl
    | some place => simp [positionOf, found]

end Top

/-- Nothing is missing in a state that a search reaches. -/
theorem Reached.strictStep_eq (inRange : InRange adjacency)
    (h : Reached (rowOf adjacency) (List.range adjacency.length) s) :
    s.strictStep adjacency = .ok (s.step (rowOf adjacency)) := by
  have formed := h.wellFormed List.nodup_range
  have listed : Lists (List.range adjacency.length) (rowOf adjacency) := lists_range inRange
  cases stack : s.stack with
  | nil => exact strictStep_of_idle stack fun v hv => List.mem_range.1 (h.within.starts hv)
  | cons frame below =>
    obtain ⟨v, pending⟩ := frame
    have inside : v < adjacency.length :=
      List.mem_range.1 (h.within.path (formed.mem_path_of_top stack))
    cases pending with
    | nil => exact strictStep_of_leave formed inside stack
    | cons w pending =>
      have target : w < adjacency.length :=
        List.mem_range.1 (listed.target_mem v w (formed.mem_succ_of_pending stack))
      exact strictStep_of_pending formed inside target stack

/-- A state in which the stack, the path, the positions and the marks agree, and whose next
step finds everything that it asks for. -/
structure Orderly (adjacency : List (List Nat)) (s : Search Nat) : Prop where
  stack_nodes : s.stack.map Frame.node = s.path.reverse
  path_nodup : s.path.Nodup
  position_iff : ∀ v place, s.position.get? v = some place ↔ s.path[place]? = some v
  path_visited : ∀ v ∈ s.path, (s.marks adjacency)[v]? = some true
  linked : s.path.IsChain (Adjacent adjacency)
  idle : s.stack = [] → s.path = [] ∧ s.position = .empty
  strict : s.strictStep adjacency = .ok (s.step (rowOf adjacency))

theorem Reached.orderly (inRange : InRange adjacency)
    (h : Reached (rowOf adjacency) (List.range adjacency.length) s) : s.Orderly adjacency := by
  have formed := h.wellFormed List.nodup_range
  refine ⟨?_, formed.path_nodup, formed.position_iff, fun v hv => ?_, formed.linked, formed.idle,
    h.strictStep_eq inRange⟩
  · rw [formed.path_eq, List.reverse_reverse]
  · have inside := List.mem_range.1 (h.within.path hv)
    simp [marks, inside, formed.path_visited v hv]

end Search

/-! ## The course of a whole search -/

section Course

variable (adjacency : List (List Nat))

/-- A search of an adjacency list after some steps. -/
def after (steps : Nat) : Search Nat :=
  (Search.start (List.range adjacency.length)).run (rowOf adjacency) steps

/-- The number of steps of a whole search: two for each node and one for each slot. -/
def stepCount : Nat := 2 * adjacency.length + adjacency.flatten.length

def slots : List (Nat × Nat) :=
  (List.range adjacency.length).flatMap fun v => slotsFrom (rowOf adjacency) v 0

theorem map_rowOf_range : (List.range adjacency.length).map (rowOf adjacency) = adjacency := by
  refine List.ext_getElem (by simp) fun v _ inside => ?_
  simp [rowOf, inside]

theorem budget_start :
    (Search.start (List.range adjacency.length)).budget (rowOf adjacency) =
      stepCount adjacency := by
  have rows : (List.range adjacency.length).flatMap (rowOf adjacency) = adjacency.flatten := by
    rw [List.flatMap_def, map_rowOf_range]
  simp only [Search.budget, Search.start, rows, stepCount, List.length_range, List.flatMap_nil,
    List.length_nil]
  omega

/-- In every state of a search the stack, the path, the positions and the marks agree, and
nothing that the next step asks for is missing. The search is over after two steps for each
node and one for each slot; until then it pushes every node once and examines every slot
once. -/
theorem search_orderly (inRange : InRange adjacency) :
    (∀ k, (after adjacency k).Orderly adjacency) ∧
      (∀ k, (after adjacency k).step (rowOf adjacency) = none ↔ stepCount adjacency ≤ k) ∧
      cyclesOfAdjacency adjacency = (after adjacency (stepCount adjacency)).cycles ∧
      ((List.range (stepCount adjacency)).filterMap fun k =>
        (after adjacency k).pushed? (rowOf adjacency)).Perm (List.range adjacency.length) ∧
      ((List.range (stepCount adjacency)).filterMap fun k =>
        (after adjacency k).slot? (rowOf adjacency)).Perm (slots adjacency) := by
  have listed : Lists (List.range adjacency.length) (rowOf adjacency) := lists_range inRange
  have begun : Search.Reached (rowOf adjacency) (List.range adjacency.length)
      (Search.start (List.range adjacency.length)) := .refl
  refine ⟨fun k => (Search.Reached.run k).orderly inRange, fun k => ?_, ?_, ?_, ?_⟩
  · rw [after, (Search.Reached.run k).step_eq_none_iff listed, begun.budget_run listed,
      budget_start]
    omega
  · rw [after, ← budget_start]
    rfl
  · rw [← budget_start]
    refine begun.perm_events listed (fun s none => ?_) fun s t _ next => Search.fresh_perm next
    exact (Search.spent none).2
  · rw [← budget_start]
    refine begun.perm_events listed (fun s none => ?_) fun s t => Search.openSlots_perm
    simp [Search.openSlots, Search.spent none]

/-- The first node lists a neighbour twice and itself. The node between the other two is
discovered last. -/
theorem search_orderly_repeated :
    InRange [[2, 2, 0], [], [1, 0]] ∧ stepCount [[2, 2, 0], [], [1, 0]] = 11 ∧
      (∀ k, (after [[2, 2, 0], [], [1, 0]] k).Orderly [[2, 2, 0], [], [1, 0]]) ∧
      (List.range 11).filterMap (fun k =>
        (after [[2, 2, 0], [], [1, 0]] k).pushed? (rowOf [[2, 2, 0], [], [1, 0]])) = [0, 2, 1] ∧
      (List.range 11).filterMap (fun k =>
        (after [[2, 2, 0], [], [1, 0]] k).slot? (rowOf [[2, 2, 0], [], [1, 0]])) =
          [(0, 0), (2, 0), (2, 1), (0, 1), (0, 2)] ∧
      [(0, 0), (2, 0), (2, 1), (0, 1), (0, 2)].Perm (slots [[2, 2, 0], [], [1, 0]]) := by
  have inRange : InRange [[2, 2, 0], [], [1, 0]] := by decide
  obtain ⟨orderly, -, -, -, examined⟩ := search_orderly _ inRange
  exact ⟨inRange, by decide, orderly, by decide, by decide, examined⟩

end Course

end ModuleAudit.BackEdge
