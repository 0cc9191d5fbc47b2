import ModuleAudit.Proofs.Cycle.OnePerEdge

/-!
# Cycles up to rotation

A closed path names a cycle by one of its rotations. Where no member repeats, the
canonical form forgets exactly the choice of the rotation: it is the same for two closed
paths if and only if the members of one are a rotation of those of the other. With
repeated members it is not, since the smallest member then has more than one place.

To keep the first closed path of every canonical form is therefore to keep one for each
cycle. The cycles are looked at one after the other, so the invariant is that of a loop:
a cycle of which a rotation has been seen changes nothing, and any other is added at the
end (`distinct_concat`).
-/

namespace ModuleAudit.Cycle

/-- A closed path that repeats its first member at the end and no other. -/
structure IsSimple (c : List Text) : Prop where
  two_le : 2 ≤ c.length
  returns : c.head? = c.getLast?
  nodup : c.dropLast.Nodup

/-- The place at which a rotation of a closed path was first discovered. -/
def discovery (cycles : List (List Text)) (c : List Text) : Nat :=
  cycles.findIdx fun d => d.dropLast ~r c.dropLast

variable {c d : List Text} {cycles : List (List Text)}

theorem IsSimple.isCycle (h : IsSimple c) : Walk.IsCycle (fun _ _ => True) c where
  two_le := h.two_le
  returns := h.returns
  linked := (Walk.isChain_iff_steps c).2 fun _ _ => trivial
  nodup := h.nodup

theorem isSimple_of_isCycle {r : Text → Text → Prop} (h : Walk.IsCycle r c) : IsSimple c :=
  ⟨h.two_le, h.returns, h.nodup⟩

/-! ## Canonical forms -/

theorem IsSimple.canonical_ne_nil (h : IsSimple c) : canonical c ≠ [] :=
  (isCycle_close_canonical h.isCycle).1

theorem IsSimple.isSimple_close_canonical (h : IsSimple c) : IsSimple (close (canonical c)) :=
  isSimple_of_isCycle (isCycle_close_canonical h.isCycle).2.1

theorem IsSimple.isRotated_canonical (h : IsSimple c) : c.dropLast ~r canonical c :=
  (isCycle_close_canonical h.isCycle).2.2

theorem IsSimple.nodup_canonical (h : IsSimple c) : (canonical c).Nodup :=
  h.isRotated_canonical.nodup_iff.1 h.nodup

/-- Canonical forms are equal exactly if the members are rotations of each other. -/
theorem IsSimple.canonical_eq_iff (hc : IsSimple c) (hd : IsSimple d) :
    canonical c = canonical d ↔ c.dropLast ~r d.dropLast := by
  constructor
  · intro same
    exact hc.isRotated_canonical.trans (same ▸ hd.isRotated_canonical.symm)
  · intro rotated
    apply (startsLeast_canonical c).eq_of_isRotated (startsLeast_canonical d) hc.nodup_canonical
    exact (hc.isRotated_canonical.symm.trans rotated).trans hd.isRotated_canonical

/-- The members of a list without repetitions are all of it: it is not closed. -/
theorem members_of_nodup {texts : List Text} (nodup : texts.Nodup) : members texts = texts := by
  apply if_neg
  rintro ⟨two_le, returns⟩
  have same : texts[0] = texts[texts.length - 1] := by
    rw [List.head?_eq_getElem?, List.getLast?_eq_getElem?, List.getElem?_eq_getElem (by omega),
      List.getElem?_eq_getElem (by omega)] at returns
    exact Option.some.inj returns
  have := nodup.getElem_inj_iff.1 same
  omega

/-- An open list in canonical form is its own canonical form. -/
theorem IsSimple.canonical_canonical (h : IsSimple c) : canonical (canonical c) = canonical c := by
  have turned : canonical c ~r canonical (canonical c) := by
    have rotated := members_isRotated_canonical (canonical c)
    rwa [members_of_nodup h.nodup_canonical] at rotated
  exact ((startsLeast_canonical c).eq_of_isRotated (startsLeast_canonical _) h.nodup_canonical
    turned).symm

theorem IsSimple.dropLast_close_canonical (h : IsSimple c) :
    (close (canonical c)).dropLast = canonical c :=
  dropLast_close h.canonical_ne_nil

/-- The closed canonical form is its own closed canonical form. -/
theorem IsSimple.canonical_close (h : IsSimple c) :
    canonical (close (canonical c)) = canonical c := by
  rw [h.isSimple_close_canonical.canonical_eq_iff h, h.dropLast_close_canonical]
  exact h.isRotated_canonical.symm

/-- The canonical form starts with the smallest member. -/
theorem IsSimple.exists_least (h : IsSimple c) :
    ∃ least ∈ (canonical c).head?, ∀ x ∈ c, least.codes ≤ x.codes := by
  obtain ⟨least, rest, form⟩ := List.exists_cons_of_ne_nil h.canonical_ne_nil
  have first : least ∈ (canonical c).head? := by simp [form]
  refine ⟨least, first, fun x hx => startsLeast_canonical c least first x ?_⟩
  rw [← h.isRotated_canonical.mem_iff]
  obtain ⟨v, inner, rfl⟩ := h.isCycle.exists_eq
  simpa [or_comm] using hx

/-! ## One closed path for each cycle -/

theorem distinct_of_simple (simple : ∀ c ∈ cycles, IsSimple c) :
    distinct cycles = (cycles.map canonical).eraseDups.map close :=
  distinct_of_ne_nil fun c hc => (simple c hc).canonical_ne_nil

/-- A cycle is added at the end, unless a rotation of it has been seen. -/
theorem distinct_concat (simple : ∀ d ∈ cycles ++ [c], IsSimple d) :
    distinct (cycles ++ [c]) =
      if ∃ d ∈ cycles, d.dropLast ~r c.dropLast then distinct cycles
      else distinct cycles ++ [close (canonical c)] := by
  obtain ⟨earlier, hc⟩ := List.forall_mem_append.1 simple
  have hc : IsSimple c := hc c (List.mem_singleton_self c)
  have seen : canonical c ∈ cycles.map canonical ↔ ∃ d ∈ cycles, d.dropLast ~r c.dropLast := by
    rw [List.mem_map]
    exact exists_congr fun d => and_congr_right fun hd => (earlier d hd).canonical_eq_iff hc
  rw [distinct_of_simple simple, distinct_of_simple earlier, List.map_append, List.map_singleton,
    eraseDups_concat]
  simp only [seen]
  split
  · rfl
  · rw [List.map_append, List.map_singleton]

/-- What is kept is the closed canonical form of the cycles. -/
theorem mem_distinct_of_simple (simple : ∀ c ∈ cycles, IsSimple c) :
    d ∈ distinct cycles ↔ ∃ c ∈ cycles, close (canonical c) = d := by
  rw [mem_distinct]
  refine exists_congr fun c => and_congr_right fun hc => ?_
  simp only [(simple c hc).canonical_ne_nil, ne_eq, not_false_eq_true, true_and]

/-- A closed path that is kept is canonical, and a rotation of one of the cycles. -/
theorem isSimple_of_mem_distinct (simple : ∀ c ∈ cycles, IsSimple c) (hd : d ∈ distinct cycles) :
    IsSimple d ∧ close (canonical d) = d ∧ ∃ c ∈ cycles, c.dropLast ~r d.dropLast := by
  obtain ⟨c, hc, rfl⟩ := (mem_distinct_of_simple simple).1 hd
  refine ⟨(simple c hc).isSimple_close_canonical, ?_, c, hc, ?_⟩
  · rw [(simple c hc).canonical_close]
  · rw [(simple c hc).dropLast_close_canonical]
    exact (simple c hc).isRotated_canonical

theorem nodup_distinct (cycles : List (List Text)) : (distinct cycles).Nodup :=
  (nodup_map_dropLast_distinct cycles).of_map _

/-- Of the rotations of a cycle exactly one is kept. -/
theorem countP_distinct (simple : ∀ c ∈ cycles, IsSimple c) (hc : c ∈ cycles) :
    (distinct cycles).countP (fun d => c.dropLast ~r d.dropLast) = 1 := by
  have only : ∀ d ∈ distinct cycles,
      decide (c.dropLast ~r d.dropLast) = true ↔ (d == close (canonical c)) = true := by
    intro d hd
    obtain ⟨hd, form, -⟩ := isSimple_of_mem_distinct simple hd
    rw [decide_eq_true_eq, beq_iff_eq, ← (simple c hc).canonical_eq_iff hd]
    constructor
    · intro same
      rw [same, form]
    · rintro rfl
      rw [(simple c hc).canonical_close]
  rw [List.countP_congr only]
  exact List.count_eq_one_of_mem (nodup_distinct cycles)
    ((mem_distinct_of_simple simple).2 ⟨c, hc, rfl⟩)

/-- The kept closed paths are in the order in which their cycles were discovered. -/
theorem pairwise_discovery (simple : ∀ c ∈ cycles, IsSimple c) :
    (distinct cycles).Pairwise fun d e => discovery cycles d < discovery cycles e := by
  induction cycles using List.reverseRecOn with
  | nil => exact List.Pairwise.nil
  | append_singleton cycles c ih =>
    have earlier := (List.forall_mem_append.1 simple).1
    have known (d : List Text) (hd : d ∈ distinct cycles) :
        discovery cycles d < cycles.length := by
      obtain ⟨-, -, b, hb, rotated⟩ := isSimple_of_mem_distinct earlier hd
      exact List.findIdx_lt_length.2 ⟨b, hb, decide_eq_true rotated⟩
    -- what was discovered earlier keeps its place
    have kept (d : List Text) (hd : d ∈ distinct cycles) :
        discovery (cycles ++ [c]) d = discovery cycles d := by
      rw [discovery, List.findIdx_append]
      exact if_pos (known d hd)
    have sorted : (distinct cycles).Pairwise fun d e =>
        discovery (cycles ++ [c]) d < discovery (cycles ++ [c]) e :=
      (ih earlier).imp_of_mem fun {d e} hd he lt => by rwa [kept d hd, kept e he]
    rw [distinct_concat simple]
    split
    · exact sorted
    · rename_i fresh
      have new : IsSimple c := (List.forall_mem_append.1 simple).2 c (List.mem_singleton_self c)
      have last : cycles.length ≤ discovery (cycles ++ [c]) (close (canonical c)) := by
        rw [discovery, List.findIdx_append, if_neg]
        · omega
        · rw [List.findIdx_lt_length]
          rintro ⟨d, hd, rotated⟩
          rw [decide_eq_true_eq, new.dropLast_close_canonical] at rotated
          exact fresh ⟨d, hd, rotated.trans new.isRotated_canonical.symm⟩
      refine List.pairwise_append.2 ⟨sorted, List.pairwise_singleton _ _, fun d hd e he => ?_⟩
      rw [List.mem_singleton.1 he, kept d hd]
      exact (known d hd).trans_le last

/-- What has been kept is kept again as it is. -/
theorem distinct_distinct (simple : ∀ c ∈ cycles, IsSimple c) :
    distinct (distinct cycles) = distinct cycles := by
  have kept {d : List Text} (hd : d ∈ distinct cycles) := isSimple_of_mem_distinct simple hd
  have apart : (distinct cycles).Pairwise fun d e => ¬ d.dropLast ~r e.dropLast := by
    refine (nodup_distinct cycles).imp_of_mem fun {d e} hd he ne rotated => ne ?_
    obtain ⟨d_simple, d_form, -⟩ := kept hd
    obtain ⟨e_simple, e_form, -⟩ := kept he
    rw [← d_form, ← e_form, (d_simple.canonical_eq_iff e_simple).2 rotated]
  rw [distinct_of_pairwise (fun d hd => (kept hd).1.isCycle.toIsClosed) apart]
  exact (List.map_congr_left fun d hd => (kept hd).2.1).trans (List.map_id _)

/-- Which rotation of each cycle was discovered does not matter. -/
theorem distinct_of_turned (simple : ∀ c ∈ cycles, IsSimple c) {turned : List (List Text)}
    (rotated : List.Forall₂ (fun c d => IsSimple d ∧ c.dropLast ~r d.dropLast) cycles turned) :
    distinct turned = distinct cycles := by
  have forms : turned.map canonical = cycles.map canonical := by
    induction rotated with
    | nil => rfl
    | cons first _ ih =>
      obtain ⟨hc, simple⟩ := List.forall_mem_cons.1 simple
      rw [List.map_cons, List.map_cons, (hc.canonical_eq_iff first.1).2 first.2, ih simple]
  rw [distinct, forms, distinct]

/-- Nor does the order, but for that of the result. -/
theorem distinct_perm {others : List (List Text)} (perm : cycles.Perm others) :
    (distinct others).Perm (distinct cycles) := by
  refine (List.perm_ext_iff_of_nodup (nodup_distinct others) (nodup_distinct cycles)).2 fun d => ?_
  simp only [mem_distinct, perm.mem_iff]

/-- The canonical form of a closed path without repeated members is the rotation of its
members that starts at the smallest, is its own canonical form, and tells closed paths
apart exactly up to rotation. Of a list of such paths, those that are kept are closed and
canonical, one for each cycle and in the order of their discovery. They are kept again as
they are, and they are the same, up to their order, if the list is reordered or paths in it
are rotated. -/
theorem canonical_up_to_rotation :
    (∀ c, IsSimple c →
      c.dropLast ~r canonical c ∧
        (∃ least ∈ (canonical c).head?, ∀ x ∈ c, least.codes ≤ x.codes) ∧
        (∀ d, IsSimple d → (canonical c = canonical d ↔ c.dropLast ~r d.dropLast)) ∧
        canonical (canonical c) = canonical c) ∧
      ∀ cycles, (∀ c ∈ cycles, IsSimple c) →
        (∀ d ∈ distinct cycles, IsSimple d ∧ close (canonical d) = d ∧
          ∃ c ∈ cycles, c.dropLast ~r d.dropLast) ∧
        (∀ c ∈ cycles, (distinct cycles).countP (fun d => c.dropLast ~r d.dropLast) = 1) ∧
        ((distinct cycles).Pairwise fun d e => discovery cycles d < discovery cycles e) ∧
        distinct (distinct cycles) = distinct cycles ∧
        (∀ turned,
          List.Forall₂ (fun c d => IsSimple d ∧ c.dropLast ~r d.dropLast) cycles turned →
          distinct turned = distinct cycles) ∧
        ∀ others, cycles.Perm others → (distinct others).Perm (distinct cycles) := by
  constructor
  · intro c hc
    exact ⟨hc.isRotated_canonical, hc.exists_least, fun d hd => hc.canonical_eq_iff hd,
      hc.canonical_canonical⟩
  · intro cycles simple
    exact ⟨fun d hd => isSimple_of_mem_distinct simple hd, fun c hc => countP_distinct simple hc,
      pairwise_discovery simple, distinct_distinct simple,
      fun turned rotated => distinct_of_turned simple rotated, fun others => distinct_perm⟩

/-- The members of the two closed paths are rotations of each other, but the smallest of
them has two places. -/
example :
    let c : List Text := ["a", "b", "a", "c", "a"]
    let d : List Text := ["a", "c", "a", "b", "a"]
    c.dropLast ~r d.dropLast ∧ canonical c ≠ canonical d := by
  decide

/-- Two rotations of a triangle with a loop between them, and the triangle the other way
round. -/
theorem canonical_up_to_rotation_triangles :
    let c : List Text := ["b", "a", "c", "b"]
    let loop : List Text := ["b", "b"]
    let d : List Text := ["c", "b", "a", "c"]
    let back : List Text := ["c", "a", "b", "c"]
    (IsSimple c ∧ IsSimple d ∧ canonical c = canonical d) ∧
      (distinct [c, loop, d, back]).length = 3 ∧
      (distinct [c, loop, d, back]).countP (fun e => d.dropLast ~r e.dropLast) = 1 ∧
      distinct [d, loop, c, back] = distinct [c, loop, d, back] ∧
      (distinct [back, d, loop, c]).Perm (distinct [c, loop, d, back]) := by
  intro c loop d back
  have hc : IsSimple c := ⟨by decide, rfl, by decide⟩
  have hloop : IsSimple loop := ⟨by decide, rfl, by decide⟩
  have hd : IsSimple d := ⟨by decide, rfl, by decide⟩
  have hback : IsSimple back := ⟨by decide, rfl, by decide⟩
  have simple : ∀ e ∈ [c, loop, d, back], IsSimple e := by
    simp only [List.forall_mem_cons]
    exact ⟨hc, hloop, hd, hback, List.forall_mem_nil _⟩
  have rotated : c.dropLast ~r d.dropLast := by decide
  obtain ⟨forms, kept⟩ := canonical_up_to_rotation
  obtain ⟨-, once, -, -, turned, reordered⟩ := kept _ simple
  refine ⟨⟨hc, hd, ((forms c hc).2.2.1 d hd).2 rotated⟩, by decide, once d (by simp), ?_, ?_⟩
  · exact turned _ (.cons ⟨hd, rotated⟩ (.cons ⟨hloop, .refl _⟩
      (.cons ⟨hc, rotated.symm⟩ (.cons ⟨hback, .refl _⟩ .nil))))
  · exact reordered _ (by decide)

end ModuleAudit.Cycle
