import ModuleAudit.Table

/-!
# Reading tables

What `get?` reads after each operation of a table, and how it agrees with the
list of entries. Keys are never repeated, so an entry is on the list exactly
when its key reads back its value.
-/

namespace ModuleAudit.Table

variable {κ α β : Type} [DecidableEq κ]

@[simp] theorem get?_empty (k : κ) : (empty : Table κ α).get? k = none := rfl

theorem find_filter_ne (k k' : κ) (l : List (κ × α)) :
    find k' (l.filter fun e => e.1 ≠ k) = if k = k' then none else find k' l := by
  induction l with
  | nil => simp [find]
  | cons e rest ih =>
    by_cases gone : e.1 = k
    · by_cases h : k = k'
      · simpa [gone, h, List.filter_cons] using ih
      · have other : ¬ e.1 = k' := fun hk => h (gone ▸ hk)
        simpa [gone, h, other, List.filter_cons, find] using ih
    · by_cases h : e.1 = k'
      · subst h
        have other : ¬ k = e.1 := fun hk => gone hk.symm
        simp [gone, other, find]
      · simpa [gone, h, List.filter_cons, find] using ih

/-- A removed key reads nothing and every other key what it held before. -/
theorem get?_erase (t : Table κ α) (k k' : κ) :
    (t.erase k).get? k' = if k = k' then none else t.get? k' :=
  find_filter_ne k k' t.entries

omit [DecidableEq κ] in
@[simp] theorem entries_map (f : κ → α → β) (t : Table κ α) :
    (t.map f).entries = t.entries.map fun e => (e.1, f e.1 e.2) := rfl

omit [DecidableEq κ] in
theorem map_map {γ : Type} (f : κ → α → β) (f' : κ → β → γ) (t : Table κ α) :
    (t.map f).map f' = t.map fun k v => f' k (f k v) := by
  ext1
  simp [List.map_map, Function.comp_def]

omit [DecidableEq κ] in
/-- Functions that agree on the entries of a table give the same table. -/
theorem map_congr {f g : κ → α → β} {t : Table κ α}
    (same : ∀ e ∈ t.entries, f e.1 e.2 = g e.1 e.2) : t.map f = t.map g := by
  ext1
  exact List.map_congr_left fun e he => by rw [same e he]

omit [DecidableEq κ] in
/-- A function that leaves every entry alone leaves the table alone. -/
theorem map_eq_self {f : κ → α → α} {t : Table κ α} (same : ∀ e ∈ t.entries, f e.1 e.2 = e.2) :
    t.map f = t := by
  ext1
  refine (List.map_congr_left fun e he => ?_).trans (List.map_id _)
  exact Prod.ext rfl (same e he)

theorem get?_map (f : κ → α → β) (t : Table κ α) (k : κ) :
    (t.map f).get? k = (t.get? k).map (f k) := by
  have read (l : List (κ × α)) :
      find k (l.map fun e => (e.1, f e.1 e.2)) = (find k l).map (f k) := by
    induction l with
    | nil => rfl
    | cons e rest ih =>
      by_cases same : e.1 = k
      · simp [find, same]
      · simpa [find, same] using ih
  exact read t.entries

/-- Changing the value of a key that is not there changes nothing. -/
theorem modify_of_not_mem {t : Table κ α} {k : κ} (absent : k ∉ t.keys) (f : α → α) :
    t.modify k f = t := by
  refine map_eq_self fun e he => ?_
  have other : e.1 ≠ k := fun same => absent (same ▸ List.mem_map_of_mem he)
  rw [if_neg other]

theorem contains_iff (t : Table κ α) (k : κ) : t.contains k = true ↔ k ∈ t.keys := by
  simp [contains, keys]

theorem contains_eq_isSome (t : Table κ α) (k : κ) : t.contains k = (t.get? k).isSome :=
  Bool.eq_iff_iff.2 ((t.contains_iff k).trans (t.isSome_get? k).symm)

/-- An entry's key reads back its value. -/
theorem get?_of_mem_entries {t : Table κ α} {e : κ × α} (he : e ∈ t.entries) :
    t.get? e.1 = some e.2 := by
  have read (l : List (κ × α)) (nodup : (l.map Prod.fst).Nodup) (he : e ∈ l) :
      find e.1 l = some e.2 := by
    induction l with
    | nil => simp at he
    | cons first rest ih =>
      obtain ⟨fresh, nodup⟩ := List.nodup_cons.1 nodup
      rcases List.mem_cons.1 he with rfl | he
      · simp [find]
      · have other : ¬ first.1 = e.1 := fun same => fresh (same ▸ List.mem_map_of_mem he)
        simpa [find, other] using ih nodup he
  exact read t.entries t.nodup_keys he

/-- An entry is listed exactly when its key reads back its value. -/
theorem mem_entries_iff (t : Table κ α) (e : κ × α) :
    e ∈ t.entries ↔ t.get? e.1 = some e.2 := by
  have listed (l : List (κ × α)) (found : find e.1 l = some e.2) : e ∈ l := by
    induction l with
    | nil => cases found
    | cons first rest ih =>
      rw [find] at found
      split at found
      · rename_i same
        exact List.mem_cons.2 (.inl (Prod.ext same.symm (Option.some.inj found).symm))
      · exact List.mem_cons_of_mem _ (ih found)
  exact ⟨get?_of_mem_entries, listed t.entries⟩

/-- Tables with the same entries in any order read the same. -/
theorem get?_eq_of_perm {t t' : Table κ α} (perm : t.entries.Perm t'.entries) (k : κ) :
    t.get? k = t'.get? k := by
  refine Option.ext fun v => ?_
  rw [← mem_entries_iff t (k, v), ← mem_entries_iff t' (k, v), perm.mem_iff]

/-- To write a key that is there replaces its value. -/
theorem insert_of_mem_keys {t : Table κ α} {k : κ} (known : k ∈ t.keys) (v : α) :
    t.insert k v = t.map fun key value => if key = k then v else value := by
  have replaced (l : List (κ × α)) (nodup : (l.map Prod.fst).Nodup) (known : k ∈ l.map Prod.fst) :
      assign k v l = l.map fun e => (e.1, if e.1 = k then v else e.2) := by
    induction l with
    | nil => simp at known
    | cons e rest ih =>
      obtain ⟨fresh, nodup⟩ := List.nodup_cons.1 nodup
      by_cases same : e.1 = k
      · have others : (rest.map fun e => (e.1, if e.1 = k then v else e.2)) = rest := by
          refine (List.map_congr_left fun e' he' => ?_).trans (List.map_id _)
          have other : e'.1 ≠ k := fun h => fresh (same ▸ h ▸ List.mem_map_of_mem he')
          rw [if_neg other, id]
        rw [assign, if_pos same, List.map_cons, others, if_pos same]
      · have later : k ∈ rest.map Prod.fst :=
          (List.mem_cons.1 known).resolve_left fun h => same h.symm
        rw [assign, if_neg same, ih nodup later, List.map_cons, if_neg same]
  ext1
  exact replaced t.entries t.nodup_keys known

theorem assign_append {k : κ} {front : List (κ × α)} (fresh : k ∉ front.map Prod.fst) (v : α)
    (rest : List (κ × α)) : assign k v (front ++ rest) = front ++ assign k v rest := by
  induction front with
  | nil => rfl
  | cons e front ih =>
    rw [List.map_cons, List.mem_cons, not_or] at fresh
    rw [List.cons_append, assign, if_neg (Ne.symm fresh.1), ih fresh.2, List.cons_append]

/-- Entries with different keys, written over a table with the first of these keys, are
listed as they are written: none of the old values remains. -/
theorem entries_insertMany {t : Table κ α} {l : List (κ × α)} (nodup : (l.map Prod.fst).Nodup)
    (started : t.keys <+: l.map Prod.fst) : (t.insertMany l).entries = l := by
  -- in the middle of the writing, new entries stand before old ones
  have written (front old l : List (κ × α)) (nodup : ((front ++ l).map Prod.fst).Nodup)
      (started : old.map Prod.fst <+: l.map Prod.fst) (t : Table κ α)
      (mixed : t.entries = front ++ old) : (t.insertMany l).entries = front ++ l := by
    induction l generalizing front old t with
    | nil =>
      have none : old = [] := by simpa using started
      rw [none] at mixed
      exact mixed
    | cons e l ih =>
      have fresh : e.1 ∉ front.map Prod.fst := by
        rw [List.map_append, List.map_cons] at nodup
        exact fun he => (List.nodup_append.1 nodup).2.2 _ he _ List.mem_cons_self rfl
      have next : (t.insert e.1 e.2).entries = front ++ [e] ++ old.tail := by
        change assign e.1 e.2 t.entries = _
        rw [mixed, assign_append fresh, List.append_assoc]
        cases old with
        | nil => rfl
        | cons first old =>
          have same : first.1 = e.1 := (List.cons_prefix_cons.1 started).1
          simp [assign, same]
      have rest : old.tail.map Prod.fst <+: l.map Prod.fst := by
        cases old with
        | nil => exact List.nil_prefix
        | cons first old => exact (List.cons_prefix_cons.1 started).2
      have moved : front ++ [e] ++ l = front ++ e :: l := by simp
      rw [← moved] at nodup ⊢
      exact ih (front ++ [e]) old.tail nodup rest (t.insert e.1 e.2) next
  exact written [] t.entries l nodup started t rfl

/-- Entries with different keys are listed as they are written. -/
theorem entries_ofList {l : List (κ × α)} (nodup : (l.map Prod.fst).Nodup) :
    (ofList l).entries = l :=
  entries_insertMany nodup List.nil_prefix

theorem insertMany_append (t : Table κ α) (front back : List (κ × α)) :
    t.insertMany (front ++ back) = (t.insertMany front).insertMany back := by
  rw [insertMany, List.foldl_append]
  rfl

/-- A key reads the last value that was written under it, and what it held before if there
is none. -/
theorem get?_insertMany (t : Table κ α) (l : List (κ × α)) (k : κ) :
    (t.insertMany l).get? k =
      ((l.reverse.find? fun e => e.1 = k).map Prod.snd).or (t.get? k) := by
  induction l generalizing t with
  | nil => rfl
  | cons e l ih =>
    show ((t.insert e.1 e.2).insertMany l).get? k = _
    rw [ih, get?_insert, List.reverse_cons, List.find?_append, List.find?_singleton]
    cases l.reverse.find? fun e => e.1 = k with
    | some later => rfl
    | none => by_cases same : e.1 = k <;> simp [same]

theorem get?_ofList (l : List (κ × α)) (k : κ) :
    (ofList l).get? k = (l.reverse.find? fun e => e.1 = k).map Prod.snd := by
  rw [ofList, get?_insertMany, get?_empty, Option.or_none]

/-- What a list of entries writes is on the list. -/
theorem mem_of_get?_ofList {l : List (κ × α)} {k : κ} {v : α} (found : (ofList l).get? k = some v) :
    (k, v) ∈ l := by
  rw [get?_ofList, Option.map_eq_some_iff] at found
  obtain ⟨e, last, rfl⟩ := found
  have same : e.1 = k := by simpa using List.find?_some last
  exact same ▸ List.mem_reverse.1 (List.mem_of_find?_eq_some last)

/-- After one value has been written under some keys, each of them reads it. -/
theorem get?_insertMany_same (t : Table κ α) (keys : List κ) (v : α) (k : κ) :
    (t.insertMany (keys.map fun key => (key, v))).get? k =
      if k ∈ keys then some v else t.get? k := by
  induction keys generalizing t with
  | nil => rfl
  | cons key keys ih =>
    change ((t.insert key v).insertMany (keys.map fun key => (key, v))).get? k = _
    rw [ih, get?_insert]
    by_cases same : key = k
    · simp [same]
    · simp [same, Ne.symm same]

/-- Where each of some values is written under keys of its own, a key reads the last value
that was written under it. -/
theorem get?_insertMany_flatMap (t : Table κ α) (values : List α) (keys : α → List κ) (k : κ) :
    (t.insertMany (values.flatMap fun v => (keys v).map fun key => (key, v))).get? k =
      (values.reverse.find? fun v => k ∈ keys v).or (t.get? k) := by
  induction values generalizing t with
  | nil => rfl
  | cons v values ih =>
    rw [List.flatMap_cons, insertMany_append, ih, get?_insertMany_same, List.reverse_cons,
      List.find?_append, Option.or_assoc, List.find?_singleton]
    by_cases listed : k ∈ keys v
    · simp [listed]
    · simp [listed]

/-- A selection of the values of a table, each changed, read under a key. -/
theorem get?_of_entries_eq {t : Table κ α} {t' : Table κ β} {p : α → Bool} {f : κ → α → β}
    (selected : t'.entries = (t.entries.filter fun e => p e.2).map fun e => (e.1, f e.1 e.2))
    (k : κ) : t'.get? k = ((t.get? k).filter p).map (f k) := by
  refine Option.ext fun v => ?_
  rw [← mem_entries_iff t' (k, v), selected, List.mem_map, Option.map_eq_some_iff]
  simp only [List.mem_filter, mem_entries_iff, Prod.mk.injEq, Option.filter_eq_some_iff, and_assoc]
  constructor
  · rintro ⟨e, read, kept, rfl, value⟩
    exact ⟨e.2, read, kept, value⟩
  · rintro ⟨a, read, kept, value⟩
    exact ⟨(k, a), read, kept, rfl, value⟩

/-- What is collected under one key comes from the value of that key. -/
theorem filter_flatMap_entries (t : Table κ α) (f : α → List β) (k : κ) :
    (t.entries.flatMap fun e => (f e.2).map fun b => (e.1, b)).filter (fun e => e.1 = k) =
      ((t.get? k).elim [] f).map fun b => (k, b) := by
  have read (l : List (κ × α)) (nodup : (l.map Prod.fst).Nodup) :
      (l.flatMap fun e => (f e.2).map fun b => (e.1, b)).filter (fun e => e.1 = k) =
        ((find k l).elim [] f).map fun b => (k, b) := by
    induction l with
    | nil => rfl
    | cons e rest ih =>
      obtain ⟨fresh, nodup⟩ := List.nodup_cons.1 nodup
      rw [List.flatMap_cons, List.filter_append, ih nodup, List.filter_map]
      by_cases same : e.1 = k
      · have gone : find k rest = none := by
          rw [← Option.not_isSome_iff_eq_none, isSome_find]
          exact same ▸ fresh
        rw [List.filter_eq_self.2 fun b _ => by simp [same]]
        simp [find, same, gone]
      · simp [find, same, Function.comp_def]
  exact read t.entries t.nodup_keys

end ModuleAudit.Table
