import ModuleAudit.Digraph.Reach
import ModuleAudit.Proofs.Digraph.Links

/-!
# Reachability is computed correctly

The closure of a bit relation holds between two numbers exactly when one or more
steps lead from the first to the second. Each stop that has been allowed is
passed freely from then on, and later stops do not take that away; since every
step starts at the number of a row, the allowed stops are all that a walk needs.

Numbers stand for nodes, so two nodes span the same nodes exactly when each reaches
the other. This makes the nodes of equal span the classes of mutual reachability, and
every node is in one of these, if only with itself.
-/

namespace ModuleAudit

namespace BitRelation

def Related (r : BitRelation) (i j : Nat) : Prop := r.holds i j = true

/-- What is related by way of `k` is related. -/
def Passes (r : BitRelation) (k : Nat) : Prop :=
  ∀ i j, r.Related i k → r.Related k j → r.Related i j

theorem related_allow (r : BitRelation) (k i j : Nat) :
    (r.allow k).Related i j ↔ r.Related i j ∨ r.Related i k ∧ r.Related k j := by
  simp only [Related, holds_allow, Bool.or_eq_true, Bool.and_eq_true]

theorem passes_allow_self (r : BitRelation) (k : Nat) : (r.allow k).Passes k := by
  intro i j
  simp only [related_allow]
  tauto

theorem Passes.allow {r : BitRelation} {m : Nat} (h : r.Passes m) (k : Nat) :
    (r.allow k).Passes m := by
  intro i j
  simp only [related_allow]
  rintro (him | ⟨hik, hkm⟩) (hmj | ⟨hmk, hkj⟩)
  · exact .inl (h i j him hmj)
  · exact .inr ⟨h i k him hmk, hkj⟩
  · exact .inr ⟨hik, h k j hkm hmj⟩
  · exact .inr ⟨hik, hkj⟩

/-- Allowing stops never takes a relation away, and each stop is passed after. -/
theorem foldl_allow (stops : List Nat) (r : BitRelation) :
    (∀ i j, r.Related i j → (stops.foldl allow r).Related i j) ∧
      ∀ k, r.Passes k ∨ k ∈ stops → (stops.foldl allow r).Passes k := by
  induction stops generalizing r with
  | nil => exact ⟨fun _ _ h => h, fun k h => h.resolve_right (by simp)⟩
  | cons stop stops ih =>
    obtain ⟨grows, passes⟩ := ih (r.allow stop)
    refine ⟨fun i j h => grows i j ((r.related_allow stop i j).2 (.inl h)), ?_⟩
    rintro k (h | h)
    · exact passes k (.inl (h.allow stop))
    · rcases List.mem_cons.1 h with rfl | h
      · exact passes k (.inl (r.passes_allow_self k))
      · exact passes k (.inr h)

theorem transGen_of_foldl_allow (stops : List Nat) (r : BitRelation) {i j : Nat}
    (h : (stops.foldl allow r).Related i j) : Relation.TransGen r.Related i j := by
  induction stops generalizing r with
  | nil => exact .single h
  | cons stop stops ih =>
    refine (ih (r.allow stop) h).lift' id fun a b hab => ?_
    rcases (r.related_allow stop a b).1 hab with hab | ⟨before, after⟩
    · exact .single hab
    · exact .tail (.single before) after

theorem lt_length_of_related {r : BitRelation} {i j : Nat} (h : r.Related i j) :
    i < r.rows.length := by
  by_contra outside
  simp [Related, holds, outside] at h

/-- The closure relates what one or more steps lead to. -/
theorem related_closure_iff (r : BitRelation) (i j : Nat) :
    r.closure.Related i j ↔ Relation.TransGen r.Related i j := by
  obtain ⟨grows, passes⟩ := foldl_allow (List.range r.rows.length) r
  constructor
  · exact transGen_of_foldl_allow _ r
  · intro h
    induction h with
    | single step => exact grows _ _ step
    | @tail b c _ step ih =>
      have stop : b ∈ List.range r.rows.length := List.mem_range.2 (lt_length_of_related step)
      exact passes b (.inr stop) i c ih (grows _ _ step)

@[simp] theorem length_rows_closure (r : BitRelation) :
    r.closure.rows.length = r.rows.length := by
  have same (stops : List Nat) (r : BitRelation) :
      (stops.foldl allow r).rows.length = r.rows.length := by
    induction stops generalizing r with
    | nil => rfl
    | cons stop stops ih => rw [List.foldl_cons, ih, length_rows_allow]
  exact same _ r

end BitRelation

namespace Digraph

variable {α ε : Type} [DecidableEq α] {g : Digraph α ε} {next : α → List α}

/-! ## Numbers stand for nodes -/

theorem testBit_rowOf (g : Digraph α ε) (targets : List α) (j : Nat) :
    (g.rowOf targets).testBit j = true ↔ ∃ w ∈ targets, g.nodes.idxOf w = j := by
  have grows (row : Nat) :
      (targets.foldl (fun row w => row ||| 1 <<< g.nodes.idxOf w) row).testBit j = true ↔
        row.testBit j = true ∨ ∃ w ∈ targets, g.nodes.idxOf w = j := by
    induction targets generalizing row with
    | nil => simp
    | cons w targets ih =>
      rw [List.foldl_cons, ih, Nat.testBit_or, Nat.one_shiftLeft, Nat.testBit_two_pow]
      simp [or_assoc]
  simpa [rowOf] using grows 0

/-- The steps that `next` allows, between the numbers of nodes. -/
def stepsBy (g : Digraph α ε) (next : α → List α) : BitRelation where
  rows := g.nodes.map fun v => g.rowOf (next v)

theorem getElem?_nodes_iff (g : Digraph α ε) {v : α} (hv : v ∈ g.nodes) (i : Nat) :
    g.nodes[i]? = some v ↔ g.nodes.idxOf v = i := by
  constructor
  · intro h
    obtain ⟨inside, rfl⟩ := List.getElem?_eq_some_iff.1 h
    exact g.nodes_nodup.idxOf_getElem i inside
  · rintro rfl
    exact List.getElem?_idxOf hv

theorem related_stepsBy (listed : Lists g.nodes next) (i j : Nat) :
    (g.stepsBy next).Related i j ↔
      ∃ v w, g.nodes[i]? = some v ∧ g.nodes[j]? = some w ∧ w ∈ next v := by
  rw [BitRelation.Related, BitRelation.holds, stepsBy, List.getD_eq_getElem?_getD,
    List.getElem?_map]
  cases hv : g.nodes[i]? with
  | none => simp
  | some v =>
    simp only [Option.map_some, Option.getD_some, testBit_rowOf, Option.some.injEq,
      exists_and_left, exists_eq_left']
    refine exists_congr fun w => ?_
    rw [and_comm]
    exact and_congr_left fun hw => (g.getElem?_nodes_iff (listed.target_mem v w hw) j).symm

/-- The closure relates the numbers of two nodes exactly when steps lead from one
node to the other. -/
theorem related_closure_stepsBy (listed : Lists g.nodes next) (i j : Nat) :
    (g.stepsBy next).closure.Related i j ↔ ∃ v w, g.nodes[i]? = some v ∧
      g.nodes[j]? = some w ∧ Relation.TransGen (fun a b => b ∈ next a) v w := by
  rw [BitRelation.related_closure_iff]
  constructor
  · intro h
    induction h with
    | single step =>
      obtain ⟨v, w, hv, hw, edge⟩ := (related_stepsBy listed _ _).1 step
      exact ⟨v, w, hv, hw, .single edge⟩
    | tail _ step ih =>
      obtain ⟨v, u, hv, hu, walk⟩ := ih
      obtain ⟨u', w, hu', hw, edge⟩ := (related_stepsBy listed _ _).1 step
      obtain rfl : u = u' := Option.some.inj (hu.symm.trans hu')
      exact ⟨v, w, hv, hw, walk.tail edge⟩
  · rintro ⟨v, w, hv, hw, walk⟩
    have numbered : Relation.TransGen (g.stepsBy next).Related (g.nodes.idxOf v)
        (g.nodes.idxOf w) := by
      refine walk.lift (fun a => g.nodes.idxOf a) fun a b edge =>
        (related_stepsBy listed _ _).2 ⟨a, b, ?_, ?_, edge⟩
      · exact List.getElem?_idxOf (listed.source_mem a b edge)
      · exact List.getElem?_idxOf (listed.target_mem a b edge)
    rwa [(g.getElem?_nodes_iff (List.mem_of_getElem? hv) i).1 hv,
      (g.getElem?_nodes_iff (List.mem_of_getElem? hw) j).1 hw] at numbered

theorem mem_reachersBy (a : Reacher α) :
    a ∈ g.reachersBy next ↔ g.nodes[a.number]? = some a.node ∧
      (g.stepsBy next).closure.rows[a.number]? = some a.row := by
  simp only [reachersBy, List.mem_map, Prod.exists]
  constructor
  · rintro ⟨node, row, number, h, rfl⟩
    exact List.getElem?_zip_eq_some.1 (List.mem_zipIdx_iff_getElem?.1 h)
  · rintro h
    exact ⟨a.node, a.row, a.number,
      List.mem_zipIdx_iff_getElem?.2 (List.getElem?_zip_eq_some.2 h), rfl⟩

theorem exists_mem_reachersBy (next : α → List α) {v : α} (hv : v ∈ g.nodes) :
    ∃ a ∈ g.reachersBy next, a.node = v := by
  obtain ⟨i, inside, rfl⟩ := List.getElem_of_mem hv
  have row : i < (g.stepsBy next).closure.rows.length := by simpa [stepsBy] using inside
  exact ⟨⟨g.nodes[i], i, (g.stepsBy next).closure.rows[i]⟩, by simp [mem_reachersBy, inside], rfl⟩

theorem map_node_reachersBy (g : Digraph α ε) (next : α → List α) :
    (g.reachersBy next).map Reacher.node = g.nodes := by
  have rows : g.nodes.length ≤ (g.stepsBy next).closure.rows.length := by simp [stepsBy]
  rw [reachersBy, List.map_map]
  change (List.zipIdx _).map (Prod.fst ∘ Prod.fst) = _
  rw [← List.map_map, List.zipIdx_map_fst]
  exact List.map_fst_zip rows

theorem testBit_row_iff {a : Reacher α} (ha : a ∈ g.reachersBy next) (j : Nat) :
    a.row.testBit j = true ↔ Relation.TransGen (g.stepsBy next).Related a.number j := by
  rw [← BitRelation.related_closure_iff, BitRelation.Related, BitRelation.holds,
    List.getD_eq_getElem?_getD, ((mem_reachersBy a).1 ha).2, Option.getD_some]

/-- A listed node reaches another exactly when steps lead to it. -/
theorem reaches_iff (listed : Lists g.nodes next) {a b : Reacher α}
    (ha : a ∈ g.reachersBy next) (hb : b ∈ g.reachersBy next) :
    a.reaches b = true ↔ Relation.TransGen (fun v w => w ∈ next v) a.node b.node := by
  have a_here := ((mem_reachersBy a).1 ha).1
  have b_here := ((mem_reachersBy b).1 hb).1
  rw [Reacher.reaches, testBit_row_iff ha, ← BitRelation.related_closure_iff,
    related_closure_stepsBy listed]
  simp [a_here, b_here]

/-! ## Components -/

theorem reaches_iff_links {a b : Reacher α} (ha : a ∈ g.reachers) (hb : b ∈ g.reachers) :
    a.reaches b = true ↔ Relation.TransGen g.Links a.node b.node :=
  g.mem_successors_eq_links ▸ reaches_iff g.lists_successors ha hb

/-- Each of two nodes reaches the other, by any number of edges. -/
def Connected (g : Digraph α ε) (v w : α) : Prop :=
  Relation.ReflTransGen g.Links v w ∧ Relation.ReflTransGen g.Links w v

namespace Connected

theorem refl (g : Digraph α ε) (v : α) : g.Connected v v := ⟨.refl, .refl⟩

theorem symm {v w : α} (h : g.Connected v w) : g.Connected w v := ⟨h.2, h.1⟩

theorem trans {u v w : α} (huv : g.Connected u v) (hvw : g.Connected v w) : g.Connected u w :=
  ⟨huv.1.trans hvw.1, hvw.2.trans huv.2⟩

theorem mem_nodes {v w : α} (h : g.Connected v w) (hv : v ∈ g.nodes) : w ∈ g.nodes := by
  obtain rfl | ⟨u, -, last⟩ := Relation.ReflTransGen.cases_tail_iff _ _ _ |>.1 h.1
  · exact hv
  · exact last.mem_nodes.2

end Connected

/-- A span has the number of its node and those that the row has. -/
theorem testBit_span_iff {a : Reacher α} (ha : a ∈ g.reachersBy next) (j : Nat) :
    a.span.testBit j = true ↔ Relation.ReflTransGen (g.stepsBy next).Related a.number j := by
  rw [Reacher.span, Nat.testBit_or, Nat.one_shiftLeft, Nat.testBit_two_pow, Bool.or_eq_true,
    testBit_row_iff ha, decide_eq_true_eq, Relation.reflTransGen_iff_eq_or_transGen, or_comm,
    eq_comm]

theorem reflTransGen_related_iff_links {a b : Reacher α} (ha : a ∈ g.reachers)
    (hb : b ∈ g.reachers) :
    Relation.ReflTransGen (g.stepsBy g.successors).Related a.number b.number ↔
      Relation.ReflTransGen g.Links a.node b.node := by
  have a_here := ((mem_reachersBy a).1 ha).1
  have b_here := ((mem_reachersBy b).1 hb).1
  have same : b.number = a.number ↔ b.node = a.node := by
    rw [← (g.getElem?_nodes_iff (List.mem_of_getElem? a_here) _).1 a_here,
      ← (g.getElem?_nodes_iff (List.mem_of_getElem? b_here) _).1 b_here,
      List.idxOf_inj (List.mem_of_getElem? b_here)]
  rw [Relation.reflTransGen_iff_eq_or_transGen, Relation.reflTransGen_iff_eq_or_transGen, same,
    ← testBit_row_iff ha, ← reaches_iff_links ha hb, Reacher.reaches]

/-- Two nodes span the same nodes exactly when each reaches the other. -/
theorem span_eq_iff {a b : Reacher α} (ha : a ∈ g.reachers) (hb : b ∈ g.reachers) :
    a.span = b.span ↔ g.Connected a.node b.node := by
  rw [Connected, ← reflTransGen_related_iff_links ha hb, ← reflTransGen_related_iff_links hb ha]
  constructor
  · intro same
    rw [← testBit_span_iff ha, ← testBit_span_iff hb, same, testBit_span_iff hb, ← same,
      testBit_span_iff ha]
    exact ⟨.refl, .refl⟩
  · rintro ⟨forth, back⟩
    refine Nat.eq_of_testBit_eq fun j => Bool.eq_iff_iff.2 ?_
    rw [testBit_span_iff ha, testBit_span_iff hb]
    exact ⟨back.trans, forth.trans⟩

/-- The list has the nodes that some node reaches and that reach it, by any number of
edges. -/
def IsClass (g : Digraph α ε) (k : List α) : Prop :=
  ∃ v ∈ g.nodes, ∀ w, w ∈ k ↔
    Relation.ReflTransGen g.Links v w ∧ Relation.ReflTransGen g.Links w v

namespace IsClass

variable {k : List α}

theorem ne_nil (h : g.IsClass k) : k ≠ [] := by
  obtain ⟨v, -, members⟩ := h
  exact List.ne_nil_of_mem ((members v).2 ⟨.refl, .refl⟩)

/-- A class is that of each of its members. -/
theorem mem_iff (h : g.IsClass k) {v : α} (hv : v ∈ k) (w : α) : w ∈ k ↔ g.Connected v w := by
  obtain ⟨u, -, members⟩ := h
  have known : g.Connected u v := (members v).1 hv
  exact (members w).trans ⟨known.symm.trans, known.trans⟩

/-- Of two members each reaches the other and so itself, and a single member reaches
itself only by an edge to itself. -/
theorem exists_returns_iff (h : g.IsClass k) (nodup : k.Nodup) :
    (∃ v ∈ k, Relation.TransGen g.Links v v) ↔
      2 ≤ k.length ∨ ∃ v, k = [v] ∧ g.hasEdge v v = true := by
  constructor
  · rintro ⟨v, hv, returns⟩
    match k, h.ne_nil with
    | [a], _ =>
      obtain rfl := List.mem_singleton.1 hv
      obtain ⟨u, link, back⟩ := Relation.TransGen.head'_iff.1 returns
      have member : u ∈ [v] := (h.mem_iff hv u).2 ⟨.single link, back⟩
      exact .inr ⟨v, rfl, List.mem_singleton.1 member ▸ link⟩
    | a :: b :: rest, _ => exact .inl (by simp)
  · rintro (two_le | ⟨v, rfl, link⟩)
    · match k, two_le with
      | a :: b :: rest, _ =>
        have other : b ≠ a := fun same =>
          (List.nodup_cons.1 nodup).1 (same ▸ List.mem_cons_self)
        obtain ⟨there, here⟩ := (h.mem_iff List.mem_cons_self b).1 (by simp)
        have leaves := (Relation.reflTransGen_iff_eq_or_transGen.1 there).resolve_left other
        exact ⟨a, List.mem_cons_self, leaves.trans_left here⟩
    · exact ⟨v, List.mem_singleton_self v, .single link⟩

end IsClass

/-- The nodes that span what a node spans are those connected to it. -/
theorem mem_spanning_iff {a : Reacher α} (ha : a ∈ g.reachers) (w : α) :
    w ∈ (g.reachers.filter fun b => b.span = a.span).map Reacher.node ↔
      g.Connected a.node w := by
  simp only [List.mem_map, List.mem_filter, decide_eq_true_eq]
  constructor
  · rintro ⟨b, ⟨hb, same⟩, rfl⟩
    exact (span_eq_iff ha hb).1 same.symm
  · intro connected
    have a_here := List.mem_of_getElem? ((mem_reachersBy a).1 ha).1
    obtain ⟨b, hb, rfl⟩ := exists_mem_reachersBy g.successors (connected.mem_nodes a_here)
    exact ⟨b, ⟨hb, ((span_eq_iff ha hb).2 connected).symm⟩, rfl⟩

/-- Every component is a class of nodes that reach each other. -/
theorem isClass_of_mem_components {k : List α} (hk : k ∈ g.components) : g.IsClass k := by
  simp only [components, List.mem_map, List.mem_eraseDups] at hk
  obtain ⟨_, ⟨a, ha, rfl⟩, rfl⟩ := hk
  exact ⟨a.node, List.mem_of_getElem? ((mem_reachersBy a).1 ha).1, mem_spanning_iff ha⟩

theorem nodup_of_mem_components {k : List α} (hk : k ∈ g.components) : k.Nodup := by
  simp only [components, List.mem_map, List.mem_eraseDups] at hk
  obtain ⟨span, -, rfl⟩ := hk
  have nodes : (g.reachers.map Reacher.node).Nodup := map_node_reachersBy g _ ▸ g.nodes_nodup
  exact nodes.sublist (List.filter_sublist.map _)

/-- Every node has a component. -/
theorem exists_mem_components {v : α} (hv : v ∈ g.nodes) :
    ∃ k ∈ g.components, ∀ w, w ∈ k ↔ g.Connected v w := by
  obtain ⟨a, ha, rfl⟩ := exists_mem_reachersBy g.successors hv
  refine ⟨_, ?_, mem_spanning_iff ha⟩
  simp only [components, List.mem_map, List.mem_eraseDups]
  exact ⟨a.span, ⟨a, ha, rfl⟩, rfl⟩

end Digraph

end ModuleAudit
