import Mathlib.Data.List.Perm.Basic

/-!
# Traversals that may fail

A computation that succeeds does so step by step, and a traversal that succeeds
has one result for each element, in their order. Whether it succeeds does not
depend on that order.
-/

namespace ModuleAudit

variable {ε α β : Type}

/-- A computation that succeeds does so step by step. -/
theorem ok_steps_of_bind {x : Except ε α} {f : α → Except ε β} {b : β}
    (h : x >>= f = .ok b) : ∃ a, x = .ok a ∧ f a = .ok b := by
  cases x with
  | error reason => cases h
  | ok a => exact ⟨a, rfl, h⟩

theorem bind_of_ok_steps {x : Except ε α} {f : α → Except ε β} {a : α} {b : β}
    (hx : x = .ok a) (hf : f a = .ok b) : x >>= f = .ok b := by
  rw [hx]
  exact hf

/-- A computation that fails does so at one of its steps. -/
theorem error_steps_of_bind {x : Except ε α} {f : α → Except ε β} {reason : ε}
    (h : x >>= f = .error reason) :
    x = .error reason ∨ ∃ a, x = .ok a ∧ f a = .error reason := by
  cases x with
  | error other => cases h; exact .inl rfl
  | ok a => exact .inr ⟨a, rfl, h⟩

theorem exists_ok_of_any_toOption {x : Except ε α} {q : α → Bool}
    (h : x.toOption.any q = true) : ∃ a, x = .ok a ∧ q a = true := by
  cases x with
  | error reason => cases h
  | ok a => exact ⟨a, rfl, h⟩

/-- A traversal succeeds exactly when each element has its result. -/
theorem mapM_eq_ok_iff {f : α → Except ε β} {l : List α} {results : List β} :
    l.mapM f = .ok results ↔ List.Forall₂ (fun a b => f a = .ok b) l results := by
  induction l generalizing results with
  | nil =>
    constructor
    · intro h
      cases h
      exact .nil
    · intro h
      cases h
      rfl
  | cons a l ih =>
    constructor
    · intro h
      obtain ⟨first, hfirst, h⟩ := ok_steps_of_bind (List.mapM_cons.symm.trans h)
      obtain ⟨rest, hrest, h⟩ := ok_steps_of_bind h
      cases h
      exact .cons hfirst (ih.1 hrest)
    · intro h
      cases h with
      | cons hfirst hrest => rw [List.mapM_cons, hfirst, ih.2 hrest]; rfl

/-- A traversal of images succeeds when each image has a result. -/
theorem mapM_map_eq_ok {γ : Type} {f : γ → Except ε β} {image : α → γ} {result : α → β}
    {l : List α} (h : ∀ a ∈ l, f (image a) = .ok (result a)) :
    (l.map image).mapM f = .ok (l.map result) := by
  rw [mapM_eq_ok_iff, List.forall₂_map_left_iff, List.forall₂_map_right_iff, List.forall₂_same]
  exact h

/-- A traversal whose results are all changed in one way succeeds or fails as
before, with the changed results. -/
theorem mapM_eq_map_mapM {γ : Type} {f : α → Except ε β} {f' : α → Except ε γ} {change : β → γ}
    {l : List α} (h : ∀ a ∈ l, f' a = (f a).map change) :
    l.mapM f' = (l.mapM f).map (List.map change) := by
  induction l with
  | nil => rfl
  | cons a l ih =>
    obtain ⟨first, rest⟩ := List.forall_mem_cons.1 h
    rw [List.mapM_cons, List.mapM_cons, first, ih rest]
    cases f a with
    | error reason => rfl
    | ok b => cases l.mapM f <;> rfl

theorem mapM_cons_of_ok {f : α → Except ε β} {a : α} {b : β} (h : f a = .ok b) (l : List α) :
    (a :: l).mapM f = (l.mapM f).map (b :: ·) := by
  rw [List.mapM_cons, h]
  cases l.mapM f <;> rfl

theorem mapM_cons_of_error {f : α → Except ε β} {a : α} {reason : ε} (h : f a = .error reason)
    (l : List α) : (a :: l).mapM f = .error reason := by
  rw [List.mapM_cons, h]
  rfl

/-- Each result of a successful traversal comes from one of the elements. -/
theorem exists_of_mem_mapM {f : α → Except ε β} {l : List α} {results : List β}
    (h : l.mapM f = .ok results) {b : β} (hb : b ∈ results) : ∃ a ∈ l, f a = .ok b := by
  have pointwise := mapM_eq_ok_iff.1 h
  clear h
  induction pointwise with
  | nil => cases hb
  | cons first _ ih =>
    rcases List.mem_cons.1 hb with rfl | hb
    · exact ⟨_, List.mem_cons_self, first⟩
    · obtain ⟨a, ha, result⟩ := ih hb
      exact ⟨a, List.mem_cons_of_mem _ ha, result⟩

theorem length_of_mapM {f : α → Except ε β} {l : List α} {results : List β}
    (h : l.mapM f = .ok results) : results.length = l.length :=
  (mapM_eq_ok_iff.1 h).length_eq.symm

/-- In another order a traversal has the same results in another order. -/
theorem exists_mapM_of_perm {f : α → Except ε β} {l l' : List α} (perm : l.Perm l')
    {results : List β} (h : l.mapM f = .ok results) :
    ∃ results', l'.mapM f = .ok results' ∧ results.Perm results' := by
  obtain ⟨results', pointwise, reordered⟩ :=
    List.perm_comp_forall₂ perm.symm (mapM_eq_ok_iff.1 h)
  exact ⟨results', mapM_eq_ok_iff.2 pointwise, reordered.symm⟩

/-- A traversal fails with the reason of one of its elements. -/
theorem exists_of_mapM_eq_error {f : α → Except ε β} {l : List α} {reason : ε}
    (h : l.mapM f = .error reason) : ∃ a ∈ l, f a = .error reason := by
  induction l with
  | nil => cases h
  | cons a l ih =>
    rw [List.mapM_cons] at h
    rcases error_steps_of_bind h with first | ⟨_, -, h⟩
    · exact ⟨a, List.mem_cons_self, first⟩
    · rcases error_steps_of_bind h with rest | ⟨_, -, h⟩
      · obtain ⟨a', ha', failed⟩ := ih rest
        exact ⟨a', List.mem_cons_of_mem _ ha', failed⟩
      · cases h

def reason? : Except ε α → Option ε
  | .ok _ => none
  | .error reason => some reason

theorem reason?_eq_some_iff {x : Except ε α} {reason : ε} :
    reason? x = some reason ↔ x = .error reason := by
  cases x <;> simp [reason?]

theorem reason?_eq_none_iff {x : Except ε α} : reason? x = none ↔ ∃ a, x = .ok a := by
  cases x <;> simp [reason?]

/-- A traversal fails with the reason of the first element that does. -/
theorem reason?_mapM (f : α → Except ε β) (l : List α) :
    reason? (l.mapM f) = l.findSome? fun a => reason? (f a) := by
  induction l with
  | nil => rfl
  | cons a l ih =>
    rw [List.mapM_cons, List.findSome?_cons, ← ih]
    cases f a with
    | error reason => rfl
    | ok b => cases l.mapM f <;> rfl

/-- A run of steps fails with the reason of one of them. -/
theorem exists_of_foldlM_eq_error {step : β → α → Except ε β} {l : List α} {b : β} {reason : ε}
    (h : l.foldlM step b = .error reason) : ∃ a ∈ l, ∃ b, step b a = .error reason := by
  induction l generalizing b with
  | nil => cases h
  | cons a l ih =>
    rw [List.foldlM_cons] at h
    rcases error_steps_of_bind h with first | ⟨b', -, h⟩
    · exact ⟨a, List.mem_cons_self, b, first⟩
    · obtain ⟨a', ha', failed⟩ := ih h
      exact ⟨a', List.mem_cons_of_mem _ ha', failed⟩

end ModuleAudit
