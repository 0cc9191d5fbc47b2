import ModuleAudit.Proofs.BackEdge.Completeness

/-!
# Every edge is examined once

A search walks along some edges and closes cycles with others. Once an edge has
been examined it never waits again, and where no node lists a successor twice an
edge that waits has not been examined before. The edge that closes a cycle is
therefore a new one: it has closed no other cycle, and neither the path nor a
recorded cycle walks along it, then or later.
-/

namespace ModuleAudit

namespace BackEdge

variable {α : Type} [DecidableEq α] {succ : α → List α} {nodes : List α}

namespace Search

variable {s t : Search α}

/-- An edge that has been examined: its source has been visited and it waits no longer. -/
def Examined (s : Search α) (e : α × α) : Prop := e.1 ∉ s.fresh ∧ ¬ s.Awaits e.1 e.2

/-- An edge along which the path leads, or a recorded cycle before its last step. -/
def Walked (s : Search α) (e : α × α) : Prop :=
  e ∈ Walk.steps s.path ∨ ∃ c ∈ s.cycles, e ∈ Walk.steps c.dropLast

section Advance

variable {v w : α} {pending : List α} {below : List (Frame α)}

omit [DecidableEq α] in
/-- What waits after an edge has been taken off has waited before. -/
theorem awaits_of_advance (top : s.stack = ⟨v, w :: pending⟩ :: below) {u x : α}
    (h : ∃ frame ∈ ⟨v, pending⟩ :: below, frame.node = u ∧ x ∈ frame.pending) : s.Awaits u x := by
  obtain ⟨frame, hframe, source, waiting⟩ := h
  rw [Awaits, top]
  rcases List.mem_cons.1 hframe with rfl | hframe
  · exact ⟨_, List.mem_cons_self, source, List.mem_cons_of_mem _ waiting⟩
  · exact ⟨frame, List.mem_cons_of_mem _ hframe, source, waiting⟩

/-- An edge that is taken off waits nowhere else: its source has one frame, which
lists it once. -/
theorem WellFormed.not_awaits_advance (h : s.WellFormed succ) (simple : (succ v).Nodup)
    (top : s.stack = ⟨v, w :: pending⟩ :: below) :
    ¬ ∃ frame ∈ ⟨v, pending⟩ :: below, frame.node = v ∧ w ∈ frame.pending := by
  rintro ⟨frame, hframe, source, waiting⟩
  rcases List.mem_cons.1 hframe with rfl | hframe
  · have listed : (w :: pending).Nodup :=
      simple.sublist (h.pending_suffix ⟨v, w :: pending⟩ (by simp [top])).sublist
    exact (List.nodup_cons.1 listed).1 waiting
  · have path : ((below.map Frame.node).reverse ++ [v]).Nodup :=
      h.path_eq_concat top ▸ h.path_nodup
    have absent : v ∉ (below.map Frame.node).reverse := fun hv =>
      (List.nodup_append.1 path).2.2 v hv v (List.mem_singleton_self v) rfl
    exact absent (List.mem_reverse.2 (source ▸ List.mem_map_of_mem hframe))

end Advance

/-- After a move an edge waits only if it has waited before or its source was fresh. -/
theorem awaits_of_move (hm : Move succ s t) {v w : α} (h : t.Awaits v w) :
    s.Awaits v w ∨ v ∈ s.fresh := by
  cases hm with
  | enter idle next fresh =>
    obtain ⟨frame, hframe, rfl, waiting⟩ := h
    rcases List.mem_cons.1 hframe with rfl | hframe
    · exact .inr fresh
    · exact .inl ⟨frame, hframe, rfl, waiting⟩
  | pass => exact .inl h
  | leave top =>
    obtain ⟨frame, hframe, source, waiting⟩ := h
    exact .inl ⟨frame, by rw [top]; exact List.mem_cons_of_mem _ hframe, source, waiting⟩
  | descend top fresh =>
    obtain ⟨frame, hframe, rfl, waiting⟩ := h
    rcases List.mem_cons.1 hframe with rfl | hframe
    · exact .inr fresh
    · exact .inl (awaits_of_advance top ⟨frame, hframe, rfl, waiting⟩)
  | close top => exact .inl (awaits_of_advance top h)
  | ignore top => exact .inl (awaits_of_advance top h)

theorem fresh_subset_of_move (hm : Move succ s t) : t.fresh ⊆ s.fresh := by
  cases hm with
  | enter | descend => exact List.erase_subset
  | pass | leave | close | ignore => exact List.Subset.refl _

/-- What has been examined stays examined. -/
theorem Examined.move {e : α × α} (h : s.Examined e) (hm : Move succ s t) : t.Examined e := by
  refine ⟨fun fresh => h.1 (fresh_subset_of_move hm fresh), fun waiting => ?_⟩
  rcases awaits_of_move hm waiting with before | fresh
  · exact h.2 before
  · exact h.1 fresh

/-- No edge is examined twice: those that closed cycles are different from each other
and from those along which the search has walked. -/
structure Separated (s : Search α) : Prop where
  walked : ∀ e, s.Walked e → s.Examined e
  closed : ∀ e ∈ closingSteps s.cycles, s.Examined e
  apart : ∀ e ∈ closingSteps s.cycles, ¬ s.Walked e
  nodup : (closingSteps s.cycles).Nodup

namespace Separated

omit [DecidableEq α] in
theorem start : (start nodes).Separated where
  walked := by simp [Walked, Search.start, Walk.steps]
  closed := by simp [Search.start, closingSteps]
  apart := by simp [Search.start, closingSteps]
  nodup := by simp [Search.start, closingSteps]

/-- A move that records nothing and walks along no new edge. -/
theorem keep (h : s.Separated) (hm : Move succ s t) (cycles : t.cycles = s.cycles)
    (path : Walk.steps t.path ⊆ Walk.steps s.path) : t.Separated := by
  have before {e : α × α} (walked : t.Walked e) : s.Walked e :=
    walked.imp (path ·) fun ⟨c, hc, he⟩ => ⟨c, cycles ▸ hc, he⟩
  refine ⟨fun e he => (h.walked e (before he)).move hm, ?_, ?_, cycles ▸ h.nodup⟩
  · rw [cycles]
    exact fun e he => (h.closed e he).move hm
  · rw [cycles]
    exact fun e he walked => h.apart e he (before walked)

/-- A move along a new edge. -/
theorem extend (h : s.Separated) (hm : Move succ s t) (cycles : t.cycles = s.cycles) {e : α × α}
    (path : Walk.steps t.path = Walk.steps s.path ++ [e]) (fresh : ¬ s.Examined e)
    (examined : t.Examined e) : t.Separated := by
  have before {e' : α × α} (walked : t.Walked e') : s.Walked e' ∨ e' = e := by
    rcases walked with walked | ⟨c, hc, he⟩
    · rw [path, List.mem_append, List.mem_singleton] at walked
      exact walked.imp .inl id
    · exact .inl (.inr ⟨c, cycles ▸ hc, he⟩)
  refine ⟨fun e' he' => ?_, ?_, ?_, cycles ▸ h.nodup⟩
  · rcases before he' with walked | rfl
    · exact (h.walked e' walked).move hm
    · exact examined
  · rw [cycles]
    exact fun e' he' => (h.closed e' he').move hm
  · rw [cycles]
    intro e' he' walked
    rcases before walked with walked | rfl
    · exact h.apart e' he' walked
    · exact fresh (h.closed e' he')

/-- A move that closes a cycle of the path with a new edge. -/
theorem close (h : s.Separated) (hm : Move succ s t) (path : t.path = s.path) {c : List α}
    (cycles : t.cycles = s.cycles ++ [c]) (part : Walk.steps c.dropLast ⊆ Walk.steps s.path)
    {e : α × α} (closing : Walk.lastStep c = some e) (fresh : ¬ s.Examined e)
    (examined : t.Examined e) : t.Separated := by
  have before {e' : α × α} (walked : t.Walked e') : s.Walked e' := by
    rcases walked with walked | ⟨c', hc', he'⟩
    · exact .inl (path ▸ walked)
    · rw [cycles, List.mem_append, List.mem_singleton] at hc'
      rcases hc' with hc' | rfl
      · exact .inr ⟨c', hc', he'⟩
      · exact .inl (part he')
  have steps : closingSteps t.cycles = closingSteps s.cycles ++ [e] := by
    rw [cycles, closingSteps, List.filterMap_append]
    simp [closingSteps, closing]
  refine ⟨fun e' he' => (h.walked e' (before he')).move hm, ?_, ?_, ?_⟩
  · rw [steps, List.forall_mem_append]
    exact ⟨fun e' he' => (h.closed e' he').move hm, by simpa using examined⟩
  · rw [steps, List.forall_mem_append]
    refine ⟨fun e' he' walked => h.apart e' he' (before walked), ?_⟩
    rw [List.forall_mem_singleton]
    exact fun walked => fresh (h.walked e (before walked))
  · rw [steps, List.nodup_append]
    refine ⟨h.nodup, List.nodup_singleton e, fun e' he' e'' he'' same => ?_⟩
    rw [List.mem_singleton] at he''
    exact fresh (h.closed e (he'' ▸ same ▸ he'))

theorem move (simple : ∀ v, (succ v).Nodup) (h : s.Separated) (formed : s.WellFormed succ)
    (hm : Move succ s t) : t.Separated := by
  have moved := hm
  -- the edge at the top of the stack waits, so it has not been examined
  have waits {v w : α} {pending : List α} {below : List (Frame α)}
      (top : s.stack = ⟨v, w :: pending⟩ :: below) : ¬ s.Examined (v, w) := fun examined =>
    examined.2 ⟨⟨v, w :: pending⟩, by simp [top], rfl, List.mem_cons_self⟩
  cases hm with
  | @enter v starts idle next fresh =>
    have root : s.path = [] := by simp [formed.path_eq, idle]
    exact h.keep moved rfl (by simp [Search.visit, root, Walk.steps])
  | pass idle next visited => exact h.keep moved rfl (List.Subset.refl _)
  | @leave v below top =>
    exact h.keep moved rfl (Walk.steps_subset_of_part s.path.dropLast_prefix.isInfix)
  | @descend v w pending below top fresh =>
    have visited : v ∉ s.fresh := formed.path_visited v (formed.mem_path_of_top top)
    refine h.extend moved rfl (e := (v, w)) ?_ (waits top) ⟨?_, ?_⟩
    · simp only [Search.visit, formed.path_eq_concat top, List.append_assoc, List.cons_append,
        List.nil_append]
      exact Walk.steps_concat_concat _ v w
    · exact fun again => visited (List.mem_of_mem_erase again)
    · rintro ⟨frame, hframe, source, waiting⟩
      rcases List.mem_cons.1 hframe with rfl | hframe
      · have same : w = v := source
        exact visited (same ▸ fresh)
      · exact formed.not_awaits_advance (simple v) top ⟨frame, hframe, source, waiting⟩
  | @close v w pending below place top visited found =>
    refine h.close moved rfl rfl ?_ (formed.lastStep_close top found)
      (waits top) ⟨?_, formed.not_awaits_advance (simple v) top⟩
    · rw [List.dropLast_concat]
      exact Walk.steps_subset_of_part (List.drop_suffix place s.path).isInfix
    · exact formed.path_visited v (formed.mem_path_of_top top)
  | ignore top visited absent =>
    exact h.keep moved rfl (List.Subset.refl _)

end Separated

/-- At every moment of a search no edge has been examined twice. -/
theorem Reached.separated (nodup : nodes.Nodup) (simple : ∀ v, (succ v).Nodup)
    (h : Reached succ nodes s) : s.Separated :=
  h.invariant (P := Separated) nodup .start fun formed separated hm =>
    separated.move simple formed hm

end Search

/-! ## The result of a whole search -/

section Result

variable (nodup : nodes.Nodup) (simple : ∀ v, (succ v).Nodup)

include nodup simple

/-- No edge closes two cycles. -/
theorem nodup_closingSteps : (closingSteps (cycles succ nodes)).Nodup :=
  ((Search.Reached.run _).separated nodup simple).nodup

/-- The edge that closes a cycle is on no other one. -/
theorem pairwise_lastStep_not_mem_steps :
    (cycles succ nodes).Pairwise fun c d =>
      (∀ e ∈ Walk.lastStep c, e ∉ Walk.steps d) ∧ ∀ e ∈ Walk.lastStep d, e ∉ Walk.steps c := by
  let final := (Search.start nodes).run succ ((Search.start nodes).budget succ)
  have separated : final.Separated := (Search.Reached.run _).separated nodup simple
  have off {c d : List α} (hc : c ∈ cycles succ nodes) (hd : d ∈ cycles succ nodes) {e : α × α}
      (last : Walk.lastStep c = some e) (other : Walk.lastStep d ≠ some e) : e ∉ Walk.steps d := by
    intro he
    rcases (isCycle_of_mem_cycles nodup hd).mem_steps_iff.1 he with walked | same
    · exact separated.apart e (List.mem_filterMap.2 ⟨c, hc, last⟩) (.inr ⟨d, hd, walked⟩)
    · exact other same
  have different := List.pairwise_filterMap.1 separated.nodup
  refine different.imp_of_mem fun {c d} hc hd ne => ⟨fun e last => ?_, fun e last => ?_⟩
  · exact off hc hd last fun same => ne e last e same rfl
  · exact off hd hc last fun same => ne e same e last rfl

/-- No two of the cycles are rotations of each other. -/
theorem pairwise_not_isRotated :
    (cycles succ nodes).Pairwise fun c d => ¬ c.dropLast ~r d.dropLast := by
  refine (pairwise_lastStep_not_mem_steps nodup simple).imp_of_mem fun {c d} hc hd off rotated => ?_
  have hc := isCycle_of_mem_cycles nodup hc
  have hd := isCycle_of_mem_cycles nodup hd
  obtain ⟨e, last⟩ := hd.exists_lastStep
  exact off.2 e last (hc.steps_subset_of_isRotated hd rotated (hd.mem_steps_iff.2 (.inr last)))

end Result

end BackEdge

end ModuleAudit
