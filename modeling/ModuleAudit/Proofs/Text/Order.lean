import Mathlib.Data.List.Lex
import Mathlib.Order.Lattice
import ModuleAudit.Proofs.Rearrangement
import ModuleAudit.Text.Basic

/-!
# The order of texts

`listBefore` is the lexicographic order of lists, read through any key that
respects the comparison of elements. With the number of a code point as key it
is the order of texts.
-/

namespace ModuleAudit

theorem listBefore_iff {α κ : Type} [DecidableEq α] [LinearOrder κ] {before : α → α → Bool}
    {key : α → κ} (injective : Function.Injective key)
    (spec : ∀ a b, before a b = true ↔ key a < key b) (as bs : List α) :
    listBefore before as bs = true ↔ as.map key < bs.map key := by
  induction as generalizing bs with
  | nil => cases bs <;> simp [listBefore]
  | cons a as ih =>
    cases bs with
    | nil => simp [listBefore]
    | cons b bs =>
      simp only [listBefore, Bool.or_eq_true, Bool.and_eq_true, decide_eq_true_eq, spec, ih,
        List.map_cons, List.cons_lt_cons_iff, injective.eq_iff]

namespace Text

def codes (text : Text) : List Nat := text.map CodePoint.value

theorem codes_injective : Function.Injective codes :=
  List.map_injective_iff.2 fun _ _ => CodePoint.ext

/-- A text comes before another when its numbers do. -/
theorem before_iff (a b : Text) : before a b = true ↔ a.codes < b.codes :=
  listBefore_iff (fun _ _ => CodePoint.ext) (by simp [CodePoint.before]) a b

theorem atMost_iff (a b : Text) : atMost a b = true ↔ a.codes ≤ b.codes := by
  rw [atMost, Bool.not_eq_true', ← Bool.not_eq_true, before_iff, not_lt]

/-- Different texts in order come strictly one after the other. -/
theorem pairwise_sort {texts : List Text} (nodup : texts.Nodup) :
    (sort texts).Pairwise fun a b => a.codes < b.codes :=
  pairwise_lt_mergeSort_key codes_injective atMost_iff nodup

theorem nodup_sort_eraseDups (texts : List Text) : (sort texts.eraseDups).Nodup :=
  (List.mergeSort_perm _ _).nodup_iff.2 (nodup_eraseDups _)

/-- A list of texts is at most another one when its numbers are. -/
theorem not_listBefore_iff (as bs : List Text) :
    (!listBefore before bs as) = true ↔ as.map codes ≤ bs.map codes := by
  rw [Bool.not_eq_true', ← Bool.not_eq_true, listBefore_iff codes_injective before_iff, not_lt]

end Text

end ModuleAudit
