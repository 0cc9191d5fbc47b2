import Mathlib.Data.List.Rotate
import ModuleAudit.Cycle.Canonical
import ModuleAudit.Proofs.Text.Order

/-!
# Canonical forms of cycles

The canonical form of a cycle is a rotation of its members that starts with the
smallest of them. Among the rotations of a list without repetitions there is
only one such list, so canonical forms are equal whenever they are rotations of
each other.
-/

namespace ModuleAudit

namespace Cycle

/-- The first text of the list is the smallest. -/
def StartsLeast (texts : List Text) : Prop :=
  ∀ least ∈ texts.head?, ∀ x ∈ texts, Text.codes least ≤ Text.codes x

/-- To repeat the first text at the end adds nothing to compare with. -/
theorem startsLeast_cons_concat (first : Text) (rest : List Text) :
    StartsLeast (first :: (rest ++ [first])) ↔ StartsLeast (first :: rest) := by
  have same (x : Text) : x ∈ first :: (rest ++ [first]) ↔ x ∈ first :: rest := by
    simp [or_comm]
  simp only [StartsLeast, List.head?_cons, same]

theorem smallest_mem (first : Text) (rest : List Text) :
    smallest first rest ∈ first :: rest := by
  induction rest generalizing first with
  | nil => simp [smallest]
  | cons x rest ih =>
    simp only [smallest, List.foldl_cons] at ih ⊢
    split
    · exact List.mem_cons_of_mem _ (ih x)
    · rcases List.mem_cons.1 (ih first) with h | h
      · rw [h]
        exact List.mem_cons_self
      · exact List.mem_cons_of_mem _ (List.mem_cons_of_mem _ h)

theorem smallest_le (first : Text) (rest : List Text) :
    ∀ x ∈ first :: rest, Text.codes (smallest first rest) ≤ Text.codes x := by
  induction rest generalizing first with
  | nil => simp [smallest]
  | cons y rest ih =>
    intro x hx
    simp only [smallest, List.foldl_cons] at ih ⊢
    -- the accumulator is the smaller one of the first two texts
    split
    · rename_i less
      have below := le_of_lt ((Text.before_iff y first).1 less)
      rcases List.mem_cons.1 hx with rfl | hx
      · exact (ih y y List.mem_cons_self).trans below
      · exact ih y x hx
    · rename_i notLess
      have below := not_lt.1 fun h => notLess ((Text.before_iff y first).2 h)
      rcases List.mem_cons.1 hx with rfl | hx
      · exact ih x x List.mem_cons_self
      · rcases List.mem_cons.1 hx with rfl | hx
        · exact (ih first first List.mem_cons_self).trans below
        · exact ih first x (List.mem_cons_of_mem _ hx)

/-- The canonical form is a rotation of the members. -/
theorem members_isRotated_canonical (cycle : List Text) : members cycle ~r canonical cycle := by
  unfold canonical
  split
  · rename_i none
    rw [none]
  · rename_i first rest some
    rw [some]
    exact ⟨_, List.rotate_eq_drop_append_take List.idxOf_le_length⟩

/-- The canonical form starts with its smallest member. -/
theorem startsLeast_canonical (cycle : List Text) : StartsLeast (canonical cycle) := by
  intro least hleast x hx
  have member : x ∈ members cycle := (members_isRotated_canonical cycle).mem_iff.2 hx
  unfold canonical at hleast
  split at hleast
  · simp at hleast
  · rename_i first rest some
    have inside := List.idxOf_lt_length_of_mem (smallest_mem first rest)
    dsimp only at hleast
    rw [List.drop_eq_getElem_cons inside, List.getElem_idxOf] at hleast
    simp only [List.cons_append, List.head?_cons, Option.mem_some_iff] at hleast
    exact hleast ▸ smallest_le first rest x (some ▸ member)

/-- A list without repetitions has only one rotation that starts with the
smallest member. -/
theorem StartsLeast.eq_of_isRotated {a b : List Text} (ha : StartsLeast a) (hb : StartsLeast b)
    (nodup : a.Nodup) (rotated : a ~r b) : a = b := by
  obtain ⟨n, hn, rfl⟩ := List.isRotated_iff_mod.1 rotated
  rcases Nat.lt_or_eq_of_le hn with hn | rfl
  · have zero : 0 < a.length := by omega
    have here : (a.rotate n).head? = some a[n] := by
      rw [List.head?_rotate hn, List.getElem?_eq_getElem hn]
    have first : a.head? = some a[0] := by
      rw [List.head?_eq_getElem?, List.getElem?_eq_getElem zero]
    -- each of the two heads is at most the other
    have same : a[0] = a[n] := Text.codes_injective (le_antisymm
      (ha _ first _ (List.getElem_mem hn))
      (hb _ here _ (List.mem_rotate.2 (List.getElem_mem zero))))
    rw [← nodup.getElem_inj_iff.1 same, List.rotate_zero]
  · rw [List.rotate_length]

@[simp] theorem dropLast_close {open_ : List Text} (nonempty : open_ ≠ []) :
    (close open_).dropLast = open_ := by
  obtain ⟨first, rest, rfl⟩ := List.exists_cons_of_ne_nil nonempty
  simp only [close, List.head?_cons, Option.toList_some, List.dropLast_concat]

theorem distinct_of_ne_nil {cycles : List (List Text)}
    (nonempty : ∀ c ∈ cycles, canonical c ≠ []) :
    distinct cycles = (cycles.map canonical).eraseDups.map close := by
  have all : ((cycles.map canonical).filter fun c => c ≠ []) = cycles.map canonical :=
    List.filter_eq_self.2 (List.forall_mem_map.2 fun c hc => decide_eq_true (nonempty c hc))
  rw [distinct, all]

theorem mem_distinct {cycles : List (List Text)} {cycle : List Text} :
    cycle ∈ distinct cycles ↔
      ∃ c ∈ cycles, canonical c ≠ [] ∧ close (canonical c) = cycle := by
  simp only [distinct, List.mem_map, List.mem_eraseDups, List.mem_filter, decide_eq_true_eq]
  constructor
  · rintro ⟨_, ⟨⟨c, hc, rfl⟩, nonempty⟩, rfl⟩
    exact ⟨c, hc, nonempty, rfl⟩
  · rintro ⟨c, hc, nonempty, rfl⟩
    exact ⟨_, ⟨⟨c, hc, rfl⟩, nonempty⟩, rfl⟩

/-- No canonical form is listed twice. -/
theorem nodup_map_dropLast_distinct (cycles : List (List Text)) :
    ((distinct cycles).map List.dropLast).Nodup := by
  let forms : List (List Text) := (cycles.map canonical).filter fun c => c ≠ []
  have opened : (distinct cycles).map List.dropLast = forms.eraseDups := by
    rw [distinct, List.map_map]
    refine (List.map_congr_left fun c hc => ?_).trans (List.map_id _)
    have kept := List.mem_eraseDups.1 hc
    exact dropLast_close (by simpa using (List.mem_filter.1 kept).2)
  rw [opened]
  exact nodup_eraseDups _

end Cycle

end ModuleAudit
