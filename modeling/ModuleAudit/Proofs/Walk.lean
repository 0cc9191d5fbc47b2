import Mathlib.Data.Fintype.Card
import Mathlib.Data.List.Chain
import Mathlib.Data.List.Cycle
import Mathlib.Data.Set.Finite.List
import Mathlib.Logic.Relation
import Mathlib.Order.WellFounded
import ModuleAudit.Digraph.Basic

/-!
# Walks and cycles

A walk is listed by the nodes it passes, and every two neighbours on the list
are a step of it. A closed walk comes back to its first node; a cycle is a closed
walk that passes every other node at most once. A relation is acyclic if no node
reaches itself by one or more steps, which is the same as having no closed walk.

Two facts decide acyclicity below. A relation is acyclic as soon as one list
without repetitions has the source of every step before its target, and in a
finite set of nodes an acyclic relation leaves some node without a step to it.
-/

namespace ModuleAudit

variable {α : Type}

/-- A relation by which no node reaches itself in one or more steps. -/
def Acyclic (r : α → α → Prop) : Prop := ∀ v, ¬ Relation.TransGen r v v

/-- The nodes of a graph that is given by successors, each listed once. -/
structure Lists (nodes : List α) (succ : α → List α) : Prop where
  nodup : nodes.Nodup
  source_mem : ∀ v, ∀ w ∈ succ v, v ∈ nodes
  target_mem : ∀ v, ∀ w ∈ succ v, w ∈ nodes

namespace Walk

/-- The last step of a walk, from its second to last node to its last. -/
def lastStep (walk : List α) : Option (α × α) := (steps walk).getLast?

/-- A walk of at least one step that ends where it starts. -/
structure IsClosed (r : α → α → Prop) (walk : List α) : Prop where
  two_le : 2 ≤ walk.length
  returns : walk.head? = walk.getLast?
  linked : walk.IsChain r

/-- A closed walk that repeats no node but its first, and that only at the end. -/
structure IsCycle (r : α → α → Prop) (walk : List α) : Prop extends IsClosed r walk where
  nodup : walk.dropLast.Nodup

@[simp] theorem getLast?_cons_concat (v w : α) (inner : List α) :
    (v :: (inner ++ [w])).getLast? = some w := by
  rw [← List.cons_append, List.getLast?_concat]

@[simp] theorem dropLast_cons_concat (v w : α) (inner : List α) :
    (v :: (inner ++ [w])).dropLast = v :: inner := by
  rw [← List.cons_append, List.dropLast_concat]

@[simp] theorem steps_cons_cons (v w : α) (rest : List α) :
    steps (v :: w :: rest) = (v, w) :: steps (w :: rest) := rfl

theorem steps_concat_concat (front : List α) (v w : α) :
    steps (front ++ [v, w]) = steps (front ++ [v]) ++ [(v, w)] := by
  induction front with
  | nil => rfl
  | cons a front ih =>
    cases front with
    | nil => rfl
    | cons b front => simpa using ih

theorem lastStep_concat_concat (front : List α) (v w : α) :
    lastStep (front ++ [v, w]) = some (v, w) := by
  rw [lastStep, steps_concat_concat, List.getLast?_concat]

theorem mem_of_mem_steps {walk : List α} {e : α × α} (he : e ∈ steps walk) :
    e.1 ∈ walk ∧ e.2 ∈ walk :=
  (List.of_mem_zip he).imp id List.mem_of_mem_tail

theorem mem_steps_of_lastStep {walk : List α} {e : α × α} (he : lastStep walk = some e) :
    e ∈ steps walk :=
  List.mem_of_getLast? he

/-- The steps of a walk are the pairs that stand next to each other on it. -/
theorem mem_steps_iff_neighbours {walk : List α} {v w : α} :
    (v, w) ∈ steps walk ↔ [v, w] <:+: walk := by
  induction walk with
  | nil => simp [steps]
  | cons a rest ih =>
    cases rest with
    | nil => simp [steps, List.infix_cons_iff]
    | cons b rest =>
      have onward : [v, w] <:+: a :: b :: rest ↔ (v = a ∧ w = b) ∨ [v, w] <:+: b :: rest := by
        rw [List.infix_cons_iff, List.cons_prefix_cons, List.cons_prefix_cons]
        simp
      rw [steps_cons_cons, List.mem_cons, ih, onward, Prod.mk.injEq]

/-- A part of a walk takes steps of the walk only. -/
theorem steps_subset_of_part {part walk : List α} (h : part <:+: walk) :
    steps part ⊆ steps walk := fun _ he =>
  mem_steps_iff_neighbours.2 ((mem_steps_iff_neighbours.1 he).trans h)

/-- A list is a walk exactly when each of its steps is a step of the relation. -/
theorem isChain_iff_steps {r : α → α → Prop} (walk : List α) :
    walk.IsChain r ↔ ∀ e ∈ steps walk, r e.1 e.2 := by
  induction walk with
  | nil => simp [steps]
  | cons v rest ih =>
    cases rest with
    | nil => simp [steps]
    | cons w rest => simp only [List.isChain_cons_cons, steps_cons_cons, List.forall_mem_cons, ih]

namespace IsClosed

variable {r r' : α → α → Prop} {walk : List α}

/-- A closed walk has its first node again at the end. -/
theorem exists_eq (h : IsClosed r walk) :
    ∃ v inner, walk = v :: (inner ++ [v]) := by
  obtain ⟨two_le, returns, -⟩ := h
  cases walk with
  | nil => simp at two_le
  | cons v rest =>
    obtain rfl | ⟨inner, w, rfl⟩ := List.eq_nil_or_concat rest
    · simp at two_le
    · have same : v = w := by simpa using returns
      exact ⟨v, inner, by simp [same]⟩

theorem exists_lastStep (h : IsClosed r walk) : ∃ e, lastStep walk = some e := by
  have taken : steps walk ≠ [] := by
    obtain ⟨v, inner, rfl⟩ := h.exists_eq
    cases inner <;> simp [steps]
  exact ⟨_, List.getLast?_eq_some_getLast taken⟩

/-- A step of a closed walk is taken before the walk's end or is its last step. -/
theorem mem_steps_iff (h : IsClosed r walk) {e : α × α} :
    e ∈ steps walk ↔ e ∈ steps walk.dropLast ∨ lastStep walk = some e := by
  obtain ⟨v, inner, rfl⟩ := h.exists_eq
  obtain ⟨front, u, split⟩ : ∃ front u, v :: inner = front ++ [u] :=
    ⟨_, _, (List.dropLast_concat_getLast (List.cons_ne_nil v inner)).symm⟩
  have ending : v :: (inner ++ [v]) = front ++ [u, v] := by
    rw [← List.cons_append, split, List.append_assoc, List.singleton_append]
  rw [dropLast_cons_concat, split, ending, steps_concat_concat, lastStep_concat_concat,
    List.mem_append, List.mem_singleton, Option.some_inj, eq_comm (a := e)]

theorem of_linked {v : α} {inner : List α} (linked : (v :: (inner ++ [v])).IsChain r) :
    IsClosed r (v :: (inner ++ [v])) where
  two_le := by simp
  returns := by simp
  linked := linked

theorem mono (h : IsClosed r walk) (linked : walk.IsChain r') : IsClosed r' walk where
  two_le := h.two_le
  returns := h.returns
  linked := linked

theorem map {β : Type} {s : β → β → Prop} {f : α → β} (h : IsClosed r walk)
    (keeps : ∀ a b, r a b → s (f a) (f b)) : IsClosed s (walk.map f) where
  two_le := by simpa using h.two_le
  returns := by simp [h.returns]
  linked := (List.isChain_map f).2 (h.linked.imp keeps)

/-- On a closed walk every node reaches every node. -/
theorem transGen (h : IsClosed r walk) {a b : α} (ha : a ∈ walk) (hb : b ∈ walk) :
    Relation.TransGen r a b := by
  obtain ⟨v, inner, rfl⟩ := h.exists_eq
  have later : (v :: (inner ++ [v])).Pairwise (Relation.TransGen r) :=
    (h.linked.imp fun _ _ => .single).pairwise
  obtain ⟨onward, -⟩ := List.pairwise_cons.1 later
  have back : ∀ u ∈ v :: inner, Relation.TransGen r u v := fun u hu =>
    (List.pairwise_append.1 (List.cons_append ▸ later)).2.2 u hu v (by simp)
  have ha' : a ∈ v :: inner := by simpa [or_comm] using ha
  have hb' : b ∈ inner ++ [v] := by simpa [or_comm] using hb
  exact (back a ha').trans (onward b hb')

end IsClosed

namespace IsCycle

variable {r : α → α → Prop}

/-- A cycle may start at any of its nodes. -/
theorem of_isRotated {v w : α} {inner inner' : List α}
    (h : IsCycle r (v :: (inner ++ [v]))) (rotated : v :: inner ~r w :: inner') :
    IsCycle r (w :: (inner' ++ [w])) where
  toIsClosed := by
    refine .of_linked ?_
    rw [← Cycle.chain_coe_cons, ← Cycle.coe_eq_coe.2 rotated, Cycle.chain_coe_cons]
    exact h.linked
  nodup := by
    have before : (v :: inner).Nodup := by simpa only [dropLast_cons_concat] using h.nodup
    simpa only [dropLast_cons_concat] using rotated.nodup_iff.1 before

/-- Cycles with the same members in the same cyclic order take the same steps. -/
theorem steps_subset_of_isRotated {c d : List α} (hc : IsCycle r c) (hd : IsCycle r d)
    (rotated : c.dropLast ~r d.dropLast) : steps d ⊆ steps c := by
  have own : IsCycle (fun a b => (a, b) ∈ steps c) c :=
    { hc.toIsClosed.mono ((isChain_iff_steps c).2 fun _ he => he) with nodup := hc.nodup }
  obtain ⟨v, inner, rfl⟩ := hc.exists_eq
  obtain ⟨w, inner', rfl⟩ := hd.exists_eq
  rw [dropLast_cons_concat, dropLast_cons_concat] at rotated
  exact (isChain_iff_steps _).1 (own.of_isRotated rotated).linked

/-- The rotation of a cycle as a list is no cycle, since it has the first node of
the cycle twice in a row; only a loop stays as it is. -/
theorem eq_of_isRotated {walk turned : List α} (hwalk : IsCycle r walk)
    (hturned : IsCycle r turned) (rotated : walk ~r turned) : walk = turned := by
  obtain ⟨n, hn, rfl⟩ := List.isRotated_iff_mod.1 rotated
  obtain ⟨v, inner, hv⟩ := hwalk.exists_eq
  have front : walk.dropLast.Nodup := hwalk.nodup
  have back : walk.tail.Nodup := by
    simp only [hv, dropLast_cons_concat, List.tail_cons] at front ⊢
    exact (List.isRotated_concat v inner).nodup_iff.2 front
  obtain rfl | rfl | ⟨n, lt, rfl⟩ :
      n = 0 ∨ n = walk.length ∨ ∃ m, m + 1 < walk.length ∧ n = m + 1 := by
    rcases n with _ | n
    · exact .inl rfl
    · exact .inr ((Nat.lt_or_eq_of_le hn).symm.imp id fun lt => ⟨n, lt, rfl⟩)
  · rw [List.rotate_zero]
  · rw [List.rotate_length]
  · have twice : walk[n] = walk[n + 1] := by
      have returns := hturned.returns
      rw [List.head?_rotate lt, List.rotate_eq_drop_append_take hn, List.getLast?_append,
        List.getLast?_take] at returns
      simpa [List.getElem?_eq_getElem, lt, show n < walk.length by omega] using returns.symm
    have len : walk.length = inner.length + 2 := by simp [hv]
    -- equal neighbours are neither both before the last node nor both after the first
    by_cases inside : n + 2 < walk.length
    · have hn : n + 1 < walk.dropLast.length := by rw [List.length_dropLast]; omega
      have same : walk.dropLast[n] = walk.dropLast[n + 1] := by simpa only [List.getElem_dropLast]
      have := front.getElem_inj_iff.1 same
      omega
    · rcases n with _ | n
      · have none : inner = [] := List.eq_nil_of_length_eq_zero (by omega)
        simp [hv, none]
      · have hn : n + 1 < walk.tail.length := by rw [List.length_tail]; omega
        have same : walk.tail[n] = walk.tail[n + 1] := by simpa only [List.getElem_tail]
        have := back.getElem_inj_iff.1 same
        omega

end IsCycle

end Walk

/-- What is reached in one or more steps is the end of a walk. -/
theorem exists_walk_of_transGen {r : α → α → Prop} {v w : α} (h : Relation.TransGen r v w) :
    ∃ inner, (v :: (inner ++ [w])).IsChain r := by
  induction h with
  | single step => exact ⟨[], by simpa using step⟩
  | @tail b c _ step ih =>
    obtain ⟨inner, linked⟩ := ih
    refine ⟨inner ++ [b], ?_⟩
    have joined : ((v :: (inner ++ [b])) ++ [c]).IsChain r :=
      linked.append (List.isChain_singleton c) (by simpa using step)
    simpa using joined

/-- A node that reaches itself lies on a closed walk. -/
theorem exists_isClosed_of_transGen {r : α → α → Prop} {v : α} (h : Relation.TransGen r v v) :
    ∃ walk, Walk.IsClosed r walk ∧ v ∈ walk := by
  obtain ⟨inner, linked⟩ := exists_walk_of_transGen h
  exact ⟨_, .of_linked linked, by simp⟩

/-- Members of two lists stand in this order on the joined list. -/
theorem pair_sublist_append {v w : α} {front back : List α} (hv : v ∈ front) (hw : w ∈ back) :
    [v, w].Sublist (front ++ back) :=
  (List.singleton_sublist.2 hv).append (List.singleton_sublist.2 hw)

/-- A list in which `v` stands before `w` numbers `v` lower. -/
theorem idxOf_lt_idxOf [DecidableEq α] {order : List α} (nodup : order.Nodup) {v w : α}
    (before : [v, w].Sublist order) : order.idxOf v < order.idxOf w := by
  induction order with
  | nil => simp at before
  | cons a order ih =>
    obtain ⟨fresh, nodup⟩ := List.nodup_cons.1 nodup
    cases before with
    | cons _ before =>
      have hv : a ≠ v := fun e => fresh (e ▸ before.subset (by simp))
      have hw : a ≠ w := fun e => fresh (e ▸ before.subset (by simp))
      rw [List.idxOf_cons_ne _ hv, List.idxOf_cons_ne _ hw]
      exact Nat.succ_lt_succ (ih nodup before)
    | cons_cons _ before =>
      have hw : v ≠ w := fun e => fresh (e ▸ before.subset (by simp))
      rw [List.idxOf_cons_self, List.idxOf_cons_ne _ hw]
      exact Nat.succ_pos _

namespace Acyclic

variable {r : α → α → Prop}

/-- A relation is acyclic if one list without repetitions has the source of each
step before its target. -/
theorem of_order [DecidableEq α] {order : List α} (nodup : order.Nodup)
    (before : ∀ v w, r v w → [v, w].Sublist order) : Acyclic r := by
  have rising : ∀ v w, Relation.TransGen r v w → order.idxOf v < order.idxOf w := by
    intro v w h
    induction h with
    | single step => exact idxOf_lt_idxOf nodup (before _ _ step)
    | tail _ step ih => exact ih.trans (idxOf_lt_idxOf nodup (before _ _ step))
  exact fun v h => Nat.lt_irrefl _ (rising v v h)

/-- Some node of a finite set has no step to it from within the set. -/
theorem exists_source (acyclic : Acyclic r) {nodes : List α} (nonempty : nodes ≠ []) :
    ∃ v ∈ nodes, ∀ w ∈ nodes, ¬ r w v := by
  let below (a b : { v // v ∈ nodes }) : Prop := Relation.TransGen r a.1 b.1
  have : IsTrans _ below := ⟨fun _ _ _ hab hbc => Relation.TransGen.trans hab hbc⟩
  have : Std.Irrefl below := ⟨fun a h => acyclic a.1 h⟩
  have : Finite { v // v ∈ nodes } := List.finite_toSet nodes
  obtain ⟨first, hfirst⟩ := List.exists_mem_of_ne_nil nodes nonempty
  obtain ⟨⟨v, hv⟩, -, least⟩ :=
    (Finite.wellFounded_of_trans_of_irrefl below).has_min Set.univ ⟨⟨first, hfirst⟩, trivial⟩
  exact ⟨v, hv, fun w hw step => least ⟨w, hw⟩ trivial (.single step)⟩

theorem iff_forall_not_isClosed : Acyclic r ↔ ∀ walk, ¬ Walk.IsClosed r walk := by
  constructor
  · intro acyclic walk closed
    obtain ⟨v, inner, rfl⟩ := closed.exists_eq
    exact acyclic v (closed.transGen (by simp) (by simp))
  · intro none v h
    obtain ⟨walk, closed, -⟩ := exists_isClosed_of_transGen h
    exact none walk closed

end Acyclic

end ModuleAudit
