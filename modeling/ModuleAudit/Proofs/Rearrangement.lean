import Mathlib.Data.List.Perm.Basic
import Mathlib.Order.Lattice
import ModuleAudit.Proofs.Table

/-!
# Lists and tables in another order

Sorting elements under distinct keys keeps each of them once, and what is sorted
by a key that tells the elements apart does not depend on the order before. What
is collected from the entries of a table is the same, up to its order, for every
table with the same keys and corresponding values.
-/

namespace ModuleAudit

variable {α κ : Type}

/-- Listing the elements key by key keeps each whose key is among the keys once. -/
theorem flatMap_filter_key_perm [DecidableEq κ] {key : α → κ} {keys : List κ}
    (nodup : keys.Nodup) {l : List α} {keyed : α → Bool}
    (spec : ∀ a, keyed a = true ↔ key a ∈ keys) :
    (keys.flatMap fun k => l.filter fun a => key a = k).Perm (l.filter keyed) := by
  induction keys generalizing keyed with
  | nil =>
    have none : l.filter keyed = [] := List.filter_eq_nil_iff.2 fun a _ => by simp [spec]
    simp [none]
  | cons k keys ih =>
    obtain ⟨fresh, nodup⟩ := List.nodup_cons.1 nodup
    have here : ((l.filter keyed).filter fun a => key a = k) = l.filter fun a => key a = k := by
      rw [List.filter_filter]
      refine List.filter_congr fun a _ => ?_
      rw [Bool.eq_iff_iff, Bool.and_eq_true, spec, decide_eq_true_eq]
      exact ⟨And.left, fun same => ⟨same, same ▸ List.mem_cons_self⟩⟩
    have later : (keys.flatMap fun k => l.filter fun a => key a = k).Perm
        ((l.filter keyed).filter fun a => !decide (key a = k)) := by
      rw [List.filter_filter]
      refine ih nodup fun a => ?_
      by_cases same : key a = k
      · simp [same, fresh]
      · simp [same, spec]
    rw [List.flatMap_cons, ← here]
    exact (later.append_left _).trans (List.filter_append_perm _ _)

theorem flatMap_filter_eq {β : Type} (p : α → Bool) (f : α → List β) (l : List α) :
    (l.filter p).flatMap f = l.flatMap fun a => if p a then f a else [] := by
  induction l with
  | nil => rfl
  | cons a l ih => cases kept : p a <;> simp [kept, ih]

section Sorting

variable [LinearOrder κ] {le : α → α → Bool} {key : α → κ}

theorem trans_of_key (spec : ∀ a b, le a b = true ↔ key a ≤ key b) (a b c : α)
    (hab : le a b = true) (hbc : le b c = true) : le a c = true :=
  (spec a c).2 (le_trans ((spec a b).1 hab) ((spec b c).1 hbc))

theorem total_of_key (spec : ∀ a b, le a b = true ↔ key a ≤ key b) (a b : α) :
    (le a b || le b a) = true := by
  rw [Bool.or_eq_true, spec, spec]
  exact le_total _ _

/-- Sorted by a key, each element comes before those with larger keys. -/
theorem pairwise_mergeSort_key (spec : ∀ a b, le a b = true ↔ key a ≤ key b) (l : List α) :
    (l.mergeSort le).Pairwise fun a b => key a ≤ key b := by
  have sorted := List.pairwise_mergeSort (trans_of_key spec) (total_of_key spec) l
  exact sorted.imp fun {a b} h => (spec a b).1 h

/-- Different elements sorted by a key that tells them apart have rising keys. -/
theorem pairwise_lt_mergeSort_key (injective : Function.Injective key)
    (spec : ∀ a b, le a b = true ↔ key a ≤ key b) {l : List α} (nodup : l.Nodup) :
    (l.mergeSort le).Pairwise fun a b => key a < key b := by
  have once : (l.mergeSort le).Nodup := (List.mergeSort_perm l le).nodup_iff.2 nodup
  refine ((pairwise_mergeSort_key spec l).and once).imp fun {a b} ⟨le, ne⟩ => ?_
  exact lt_of_le_of_ne le fun same => ne (injective same)

/-- Lists with rising keys and the same elements are the same. -/
theorem eq_of_pairwise_lt_key {l l' : List α} (rising : l.Pairwise fun a b => key a < key b)
    (rising' : l'.Pairwise fun a b => key a < key b) (same : ∀ a, a ∈ l ↔ a ∈ l') : l = l' := by
  have nodup {l : List α} (rising : l.Pairwise fun a b => key a < key b) : l.Nodup :=
    rising.imp fun lt same => lt.ne (congrArg key same)
  refine List.Perm.eq_of_pairwise (fun a b _ _ hab hba => absurd hab hba.asymm) rising rising' ?_
  exact (List.perm_ext_iff_of_nodup (nodup rising) (nodup rising')).2 same

/-- Sorting by a key leaves the elements with one key in their order. -/
theorem filter_mergeSort_key (spec : ∀ a b, le a b = true ↔ key a ≤ key b) (l : List α) (k : κ) :
    (l.mergeSort le).filter (fun a => key a = k) = l.filter fun a => key a = k := by
  have tied : (l.filter fun a => key a = k).Pairwise fun a b => le a b = true := by
    refine List.pairwise_filter.2 (List.pairwise_of_forall fun a b ha hb => (spec a b).2 ?_)
    rw [of_decide_eq_true ha, of_decide_eq_true hb]
  have kept : (l.filter fun a => key a = k).Sublist (l.mergeSort le) :=
    List.sublist_mergeSort (trans_of_key spec) (total_of_key spec) tied List.filter_sublist
  have within := kept.filter fun a => key a = k
  simp only [List.filter_filter, Bool.and_self] at within
  have same := ((List.mergeSort_perm l le).filter fun a => key a = k).length_eq
  exact (within.eq_of_length same.symm).symm

/-- What is sorted by a key that tells elements apart depends on the elements only. -/
theorem mergeSort_eq_of_perm (injective : Function.Injective key)
    (spec : ∀ a b, le a b = true ↔ key a ≤ key b) {l l' : List α} (perm : l.Perm l') :
    l.mergeSort le = l'.mergeSort le := by
  refine List.Perm.eq_of_pairwise (fun a b _ _ hab hba => injective (le_antisymm hab hba))
    (pairwise_mergeSort_key spec l) (pairwise_mergeSort_key spec l') ?_
  exact (List.mergeSort_perm l le).trans (perm.trans (List.mergeSort_perm l' le).symm)

end Sorting

namespace Table

variable {β γ : Type} [DecidableEq κ] {t : Table κ α} {t' : Table κ β}

/-- To go through the entries is to read the keys in turn. -/
theorem flatMap_entries_eq (t : Table κ α) (f : κ × α → List γ) :
    t.entries.flatMap f = t.keys.flatMap fun k => (t.get? k).elim [] fun v => f (k, v) := by
  rw [keys, List.flatMap_map]
  exact List.flatMap_congr fun e he => by rw [get?_of_mem_entries he]; rfl

/-- What corresponding values give is collected in some order from either table. -/
theorem flatMap_entries_perm (keys : t.keys.Perm t'.keys) {f : κ × α → List γ}
    {f' : κ × β → List γ}
    (same : ∀ k v v', t.get? k = some v → t'.get? k = some v' → (f (k, v)).Perm (f' (k, v'))) :
    (t.entries.flatMap f).Perm (t'.entries.flatMap f') := by
  rw [flatMap_entries_eq, flatMap_entries_eq]
  refine keys.flatMap fun k hk => ?_
  obtain ⟨v, hv⟩ := Option.isSome_iff_exists.1 ((t.isSome_get? k).2 hk)
  obtain ⟨v', hv'⟩ := Option.isSome_iff_exists.1 ((t'.isSome_get? k).2 (keys.mem_iff.1 hk))
  rw [hv, hv']
  exact same k v v' hv hv'

theorem filterMap_entries_perm (keys : t.keys.Perm t'.keys) {f : κ × α → Option γ}
    {f' : κ × β → Option γ}
    (same : ∀ k v v', t.get? k = some v → t'.get? k = some v' → f (k, v) = f' (k, v')) :
    (t.entries.filterMap f).Perm (t'.entries.filterMap f') := by
  rw [List.filterMap_eq_flatMap_toList, List.filterMap_eq_flatMap_toList]
  exact flatMap_entries_perm keys fun k v v' hv hv' => by rw [same k v v' hv hv']

end Table

theorem nodup_eraseDups [BEq α] [LawfulBEq α] (l : List α) : l.eraseDups.Nodup := by
  induction hn : l.length using Nat.strongRecOn generalizing l with
  | ind n ih =>
    cases l with
    | nil => simp
    | cons a l =>
      have shorter : (l.filter fun b => !b == a).length < n := by
        rw [← hn, List.length_cons]
        exact Nat.lt_succ_of_le (List.length_filter_le _ _)
      rw [List.eraseDups_cons, List.nodup_cons]
      exact ⟨by simp [List.mem_eraseDups], ih _ shorter _ rfl⟩

theorem eraseDups_of_nodup [BEq α] [LawfulBEq α] {l : List α} (nodup : l.Nodup) :
    l.eraseDups = l := by
  induction l with
  | nil => rfl
  | cons a l ih =>
    obtain ⟨fresh, nodup⟩ := List.nodup_cons.1 nodup
    have others : (l.filter fun b => !b == a) = l := by
      refine List.filter_eq_self.2 fun b hb => ?_
      have other : b ≠ a := fun same => fresh (same ▸ hb)
      simpa using other
    rw [List.eraseDups_cons, others, ih nodup]

/-- An element is added at the end, unless it is there already. -/
theorem eraseDups_concat [BEq α] [LawfulBEq α] (l : List α) (a : α) :
    (l ++ [a]).eraseDups = if a ∈ l then l.eraseDups else l.eraseDups ++ [a] := by
  rw [List.eraseDups_append]
  by_cases known : a ∈ l <;> simp [List.removeAll, List.eraseDups_cons, known]

end ModuleAudit
