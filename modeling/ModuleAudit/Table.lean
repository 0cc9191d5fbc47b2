/-!
# Insertion-ordered tables

A table maps keys to values and remembers the order in which the keys were
first written. Writing a key again replaces its value and keeps its place, so
the order of a table never depends on later writes.

Every operation preserves the absence of repeated keys; this is the one
invariant of the type, and it makes `get?` and membership of `entries` agree.
-/

namespace ModuleAudit

/-- A finite map whose entries are listed in the order of their first writing. -/
@[ext] structure Table (κ α : Type) where
  entries : List (κ × α)
  nodup_keys : (entries.map Prod.fst).Nodup

namespace Table

variable {κ α β : Type}

def empty : Table κ α where
  entries := []
  nodup_keys := List.nodup_nil

instance : Inhabited (Table κ α) := ⟨empty⟩

/-- The keys in the order of their first writing. -/
def keys (t : Table κ α) : List κ := t.entries.map Prod.fst

/-- The values, each in its key's place. -/
def values (t : Table κ α) : List α := t.entries.map Prod.snd

def size (t : Table κ α) : Nat := t.entries.length

theorem keys_nodup (t : Table κ α) : t.keys.Nodup := t.nodup_keys

@[simp] theorem entries_empty : (empty : Table κ α).entries = [] := rfl

@[simp] theorem keys_empty : (empty : Table κ α).keys = [] := rfl

@[simp] theorem length_keys (t : Table κ α) : t.keys.length = t.size := by
  simp [keys, size]

@[simp] theorem length_values (t : Table κ α) : t.values.length = t.size := by
  simp [values, size]

/-- Apply a function to every value, which leaves the keys as they are. -/
def map (f : κ → α → β) (t : Table κ α) : Table κ β where
  entries := t.entries.map fun e => (e.1, f e.1 e.2)
  nodup_keys := by
    have same : (t.entries.map fun e => (e.1, f e.1 e.2)).map Prod.fst =
        t.entries.map Prod.fst := by
      simp [List.map_map, Function.comp_def]
    rw [same]
    exact t.nodup_keys

@[simp] theorem keys_map (f : κ → α → β) (t : Table κ α) : (t.map f).keys = t.keys := by
  simp [keys, map, List.map_map, Function.comp_def]

variable [DecidableEq κ]

/-- Write one entry: in the place of the key if it is there, else at the end. -/
def assign (k : κ) (v : α) : List (κ × α) → List (κ × α)
  | [] => [(k, v)]
  | e :: rest => if e.1 = k then (e.1, v) :: rest else e :: assign k v rest

theorem map_fst_assign (k : κ) (v : α) (l : List (κ × α)) :
    (assign k v l).map Prod.fst =
      if k ∈ l.map Prod.fst then l.map Prod.fst else l.map Prod.fst ++ [k] := by
  induction l with
  | nil => rfl
  | cons e rest ih =>
    by_cases same : e.1 = k
    · simp [assign, same]
    · have other : ¬ k = e.1 := fun h => same h.symm
      simp only [assign, same, if_false, List.map_cons, ih, List.mem_cons, other, false_or]
      split <;> simp

/-- Write a key: a new key goes to the end, a known one keeps its place. -/
def insert (t : Table κ α) (k : κ) (v : α) : Table κ α where
  entries := assign k v t.entries
  nodup_keys := by
    rw [map_fst_assign]
    split
    · exact t.nodup_keys
    · rename_i fresh
      rw [List.nodup_append]
      refine ⟨t.nodup_keys, by simp, ?_⟩
      intro a ha b hb
      simp only [List.mem_singleton] at hb
      subst hb
      exact fun h => fresh (h ▸ ha)

/-- The value of the first entry with a key. -/
def find (k : κ) : List (κ × α) → Option α
  | [] => none
  | e :: rest => if e.1 = k then some e.2 else find k rest

/-- The value of a key, if the key has been written. -/
def get? (t : Table κ α) (k : κ) : Option α := find k t.entries

def contains (t : Table κ α) (k : κ) : Bool := t.entries.any fun e => e.1 = k

/-- Apply a function to the value of one key; other keys are left alone. -/
def modify (t : Table κ α) (k : κ) (f : α → α) : Table κ α :=
  t.map fun key value => if key = k then f value else value

def erase (t : Table κ α) (k : κ) : Table κ α where
  entries := t.entries.filter fun e => e.1 ≠ k
  nodup_keys := t.nodup_keys.sublist (List.filter_sublist.map _)

def insertMany (t : Table κ α) (l : List (κ × α)) : Table κ α :=
  l.foldl (fun acc e => acc.insert e.1 e.2) t

/-- The table a list of entries writes: first place, last value. -/
def ofList (l : List (κ × α)) : Table κ α := empty.insertMany l

theorem keys_insert (t : Table κ α) (k : κ) (v : α) :
    (t.insert k v).keys = if k ∈ t.keys then t.keys else t.keys ++ [k] :=
  map_fst_assign k v t.entries

@[simp] theorem keys_modify (t : Table κ α) (k : κ) (f : α → α) :
    (t.modify k f).keys = t.keys := by
  simp [modify]

theorem find_assign (k k' : κ) (v : α) (l : List (κ × α)) :
    find k' (assign k v l) = if k = k' then some v else find k' l := by
  induction l with
  | nil => rfl
  | cons e rest ih =>
    by_cases same : e.1 = k
    · by_cases h : k = k' <;> simp [assign, find, same, h]
    · by_cases h : e.1 = k'
      · subst h
        have other : ¬ k = e.1 := fun hk => same hk.symm
        simp [assign, find, same, other]
      · simp [assign, find, same, h, ih]

/-- A written key reads back its value and every other key what it held before. -/
theorem get?_insert (t : Table κ α) (k k' : κ) (v : α) :
    (t.insert k v).get? k' = if k = k' then some v else t.get? k' :=
  find_assign k k' v t.entries

theorem isSome_find (k : κ) (l : List (κ × α)) :
    (find k l).isSome ↔ k ∈ l.map Prod.fst := by
  induction l with
  | nil => simp [find]
  | cons e rest ih =>
    by_cases same : e.1 = k
    · simp [find, same]
    · have other : ¬ k = e.1 := fun h => same h.symm
      simpa [find, same, other] using ih

/-- A key has a value exactly when it is listed among the keys. -/
theorem isSome_get? (t : Table κ α) (k : κ) : (t.get? k).isSome ↔ k ∈ t.keys :=
  isSome_find k t.entries

end Table

end ModuleAudit
