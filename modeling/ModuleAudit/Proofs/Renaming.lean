import Mathlib.Data.List.Basic
import Mathlib.Data.List.Nodup
import Mathlib.Logic.Embedding.Basic
import ModuleAudit.Proofs.Table

/-!
# Renaming the keys of a table

An injective renaming commutes with everything that only compares names. Here are
the operations of tables, and the two of lists that look for an element.
-/

namespace ModuleAudit

section Lists

variable {α β : Type} [BEq α] [LawfulBEq α] [BEq β] [LawfulBEq β] (f : α ↪ β)

theorem idxOf_rename (l : List α) (a : α) : (l.map f).idxOf (f a) = l.idxOf a := by
  induction l with
  | nil => rfl
  | cons b l ih =>
    have same : (f b == f a) = (b == a) := by
      rw [Bool.eq_iff_iff, beq_iff_eq, beq_iff_eq, f.injective.eq_iff]
    rw [List.map_cons, List.idxOf_cons, List.idxOf_cons, ih, same]

theorem eraseDups_rename (l : List α) : (l.map f).eraseDups = l.eraseDups.map f := by
  induction hn : l.length using Nat.strongRecOn generalizing l with
  | ind n ih =>
    cases l with
    | nil => rfl
    | cons a l =>
      have shorter : (l.filter fun b => !b == a).length < n := by
        rw [← hn, List.length_cons]
        exact Nat.lt_succ_of_le (List.length_filter_le _ _)
      have others : (l.map f).filter (fun b => !b == f a) = (l.filter fun b => !b == a).map f := by
        rw [List.filter_map]
        congr 2
        funext b
        simp [f.injective.eq_iff]
      rw [List.map_cons, List.eraseDups_cons, others, ih _ shorter _ rfl, List.eraseDups_cons,
        List.map_cons]

end Lists

namespace Table

variable {κ ι α β : Type} (f : κ ↪ ι)

def rename (t : Table κ α) : Table ι α where
  entries := t.entries.map fun e => (f e.1, e.2)
  nodup_keys := by
    have keys : (t.entries.map fun e => (f e.1, e.2)).map Prod.fst = t.keys.map f := by
      simp [Table.keys, Function.comp_def]
    rw [keys]
    exact t.keys_nodup.map f.injective

@[simp] theorem entries_rename (t : Table κ α) :
    (t.rename f).entries = t.entries.map fun e => (f e.1, e.2) := rfl

@[simp] theorem keys_rename (t : Table κ α) : (t.rename f).keys = t.keys.map f := by
  simp [keys, Function.comp_def]

theorem map_rename (g : ι → α → β) (t : Table κ α) :
    (t.rename f).map g = (t.map fun k => g (f k)).rename f := by
  ext1
  simp [Function.comp_def]

variable [DecidableEq κ] [DecidableEq ι]

theorem get?_rename (t : Table κ α) (k : κ) : (t.rename f).get? (f k) = t.get? k := by
  have read (l : List (κ × α)) : find (f k) (l.map fun e => (f e.1, e.2)) = find k l := by
    induction l with
    | nil => rfl
    | cons e rest ih =>
      rw [List.map_cons, find, find, ih]
      simp only [f.injective.eq_iff]
  exact read t.entries

theorem insert_rename (t : Table κ α) (k : κ) (v : α) :
    (t.rename f).insert (f k) v = (t.insert k v).rename f := by
  have written (l : List (κ × α)) :
      assign (f k) v (l.map fun e => (f e.1, e.2)) = (assign k v l).map fun e => (f e.1, e.2) := by
    induction l with
    | nil => rfl
    | cons e rest ih =>
      rw [List.map_cons, assign, assign, ih]
      simp only [f.injective.eq_iff]
      split <;> rfl
  ext1
  exact written t.entries

theorem erase_rename (t : Table κ α) (k : κ) :
    (t.rename f).erase (f k) = (t.erase k).rename f := by
  ext1
  simp [erase, List.filter_map, Function.comp_def, f.injective.eq_iff]

end Table

end ModuleAudit
