import Mathlib.Data.List.Basic
import ModuleAudit.Path

/-!
# The common root of paths

The longest common start of lists is the one whose starts are the starts that all
of them share. The lists in another order share the same starts, so the deepest
common directory of paths does not depend on their order.
-/

namespace ModuleAudit.Path

section

variable {α : Type} [DecidableEq α]

/-- The starts of a common start are those of both lists. -/
theorem prefix_commonStart_iff (p a b : List α) : p <+: commonStart a b ↔ p <+: a ∧ p <+: b := by
  induction p generalizing a b with
  | nil => simp
  | cons x p ih =>
    match a, b with
    | [], b => simp [commonStart]
    | a :: as, [] => simp [commonStart]
    | a :: as, b :: bs =>
      by_cases same : a = b
      · subst same
        simp only [commonStart, if_true, List.cons_prefix_cons, ih]
        tauto
      · simp only [commonStart, same, if_false, List.cons_prefix_cons]
        constructor
        · intro h
          exact absurd h.length_le (by simp)
        · rintro ⟨⟨rfl, -⟩, rfl, -⟩
          exact absurd rfl same

/-- The starts of the longest common start are those that all lists share. -/
theorem prefix_commonStartAll_iff {lists : List (List α)} (nonempty : lists ≠ []) (p : List α) :
    p <+: commonStartAll lists ↔ ∀ l ∈ lists, p <+: l := by
  obtain ⟨first, rest, rfl⟩ := List.exists_cons_of_ne_nil nonempty
  rw [commonStartAll, List.forall_mem_cons]
  clear nonempty
  induction rest generalizing first with
  | nil => simp
  | cons next rest ih =>
    rw [List.foldl_cons, ih, prefix_commonStart_iff, List.forall_mem_cons, and_assoc]

theorem commonStartAll_eq_of_perm {lists lists' : List (List α)} (perm : lists.Perm lists') :
    commonStartAll lists = commonStartAll lists' := by
  rcases eq_or_ne lists [] with rfl | nonempty
  · rw [perm.nil_eq]
  have nonempty' : lists' ≠ [] := fun none => nonempty (none ▸ perm).eq_nil
  have shared (p : List α) : p <+: commonStartAll lists ↔ p <+: commonStartAll lists' := by
    rw [prefix_commonStartAll_iff nonempty, prefix_commonStartAll_iff nonempty']
    exact forall_congr' fun l => by rw [perm.mem_iff]
  have start := (shared _).1 (List.prefix_refl _)
  have start' := (shared _).2 (List.prefix_refl _)
  exact start.eq_of_length_le start'.length_le

end

/-- Paths are of one kind when no two differ in whether they are absolute. -/
theorem all_isAbsolute_iff (first : Text) (rest : List Text) :
    (rest.all fun path => isAbsolute path == isAbsolute first) = true ↔
      ∀ a ∈ first :: rest, ∀ b ∈ first :: rest, isAbsolute a = isAbsolute b := by
  rw [List.all_eq_true]
  constructor
  · intro same
    have all : ∀ a ∈ first :: rest, isAbsolute a = isAbsolute first :=
      List.forall_mem_cons.2 ⟨rfl, fun a ha => by simpa using same a ha⟩
    exact fun a ha b hb => (all a ha).trans (all b hb).symm
  · intro same a ha
    simpa using same a (List.mem_cons_of_mem _ ha) first List.mem_cons_self

theorem common?_eq_of_perm {paths paths' : List Text} (perm : paths.Perm paths') :
    common? paths = common? paths' := by
  match paths, paths', perm with
  | [], paths', perm => rw [perm.nil_eq]
  | first :: rest, [], perm => exact absurd perm.eq_nil (by simp)
  | first :: rest, first' :: rest', perm =>
    have kinds : (rest.all fun path => isAbsolute path == isAbsolute first) =
        rest'.all fun path => isAbsolute path == isAbsolute first' := by
      rw [Bool.eq_iff_iff, all_isAbsolute_iff, all_isAbsolute_iff]
      simp only [perm.mem_iff]
    simp only [common?]
    rw [kinds]
    split
    · rename_i oneKind
      rw [← kinds, all_isAbsolute_iff] at oneKind
      rw [oneKind first List.mem_cons_self first' (perm.mem_iff.2 List.mem_cons_self),
        commonStartAll_eq_of_perm (perm.map properSegments)]
    · rfl

theorem commonRoot_eq_of_perm {paths paths' : List Text} (perm : paths.Perm paths') :
    commonRoot paths = commonRoot paths' :=
  common?_eq_of_perm (perm.map parent)

end ModuleAudit.Path
