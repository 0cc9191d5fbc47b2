import Mathlib.Data.List.Basic
import ModuleAudit.Proofs.Table
import ModuleAudit.Proofs.Traversal
import ModuleAudit.Record.FactMap

/-!
# Accepted records

An accepted entry has an absolute path for its key, and no two keys of a fact map
are the same. The accepted entries therefore are a table of modules as they
stand, and every entry is either among them, among the errors, or an obstacle to
reading the map.

A refusal shows a key that is no text, so the key of a refused entry can be shown
again under its error.
-/

namespace ModuleAudit

namespace Record

variable {l : Limits}

/-- A value is refused in a message that shows it, or it cannot be shown. -/
theorem refuseShowing_cases {α : Type} (value : Json) (error : Text → RecordError) :
    (∃ got, value.shown l = .ok got ∧
      (refuseShowing l value error : Result α) = .error (.refused (error got))) ∨
    ∃ reason, value.shown l = .error reason ∧
      (refuseShowing l value error : Result α) = .error (.unshown reason) := by
  unfold refuseShowing
  cases value.shown l with
  | ok got => exact .inl ⟨got, rfl, rfl⟩
  | error reason => exact .inr ⟨reason, rfl, rfl⟩

@[simp] theorem refuseShowing_ne_ok {α : Type} {value : Json} {error : Text → RecordError}
    {a : α} : refuseShowing l value error ≠ .ok a := by
  obtain ⟨got, -, refused⟩ | ⟨reason, -, unshown⟩ :=
    refuseShowing_cases (l := l) (α := α) value error
  · simp [refused]
  · simp [unshown]

theorem readIdentity_eq_ok_iff {key : Json} {path : Text} :
    readIdentity l key = .ok path ↔ key = .str path ∧ Path.isAbsolute path = true := by
  unfold readIdentity
  constructor
  · intro h
    split at h
    · split at h
      · rename_i absolute
        cases h
        exact ⟨rfl, absolute⟩
      · exact absurd h refuseShowing_ne_ok
    · exact absurd h refuseShowing_ne_ok
  · rintro ⟨rfl, absolute⟩
    simp [absolute]

/-- An entry is accepted when its key is an absolute path and its facts can be
read. -/
theorem read_eq_ok_iff {key value : Json} {path : Text} {facts : ModuleFacts} :
    read l key value = .ok (path, facts) ↔
      (key = .str path ∧ Path.isAbsolute path = true) ∧ readFacts l path value = .ok facts := by
  rw [← readIdentity_eq_ok_iff]
  constructor
  · intro h
    obtain ⟨path', identified, h⟩ := ok_steps_of_bind h
    obtain ⟨facts', known, h⟩ := ok_steps_of_bind h
    cases h
    exact ⟨identified, known⟩
  · rintro ⟨identified, known⟩
    exact bind_of_ok_steps identified (bind_of_ok_steps known rfl)

/-- An entry that gives no module has a key that does not identify one, or facts that
cannot be read. -/
theorem read_eq_error_cases {key value : Json} {stop : RecordStop}
    (stopped : read l key value = .error stop) :
    readIdentity l key = .error stop ∨
      ∃ path, readIdentity l key = .ok path ∧ readFacts l path value = .error stop := by
  obtain identity | ⟨path, identified, rest⟩ := error_steps_of_bind stopped
  · exact .inl identity
  · obtain facts | ⟨_, -, rest⟩ := error_steps_of_bind rest
    · exact .inr ⟨path, identified, facts⟩
    · cases rest

/-- The key of a refused entry can be shown. -/
theorem exists_displayed_of_refused {key value : Json} {error : RecordError}
    (refused : read l key value = .error (.refused error)) :
    ∃ name, key.displayed l = .ok name := by
  cases key with
  | str path => exact ⟨path, rfl⟩
  | _ =>
    obtain identity | ⟨path, identified, -⟩ := read_eq_error_cases refused
    · obtain ⟨got, shown, -⟩ | ⟨reason, -, unshown⟩ :=
        refuseShowing_cases (l := l) (α := Text) _ .identity
      · exact ⟨got, shown⟩
      · cases identity.symm.trans unshown
    · cases (readIdentity_eq_ok_iff.1 identified).1

/-- The facts of a module that does nothing but import, from some specifiers. -/
def importing (sources : List Text) : Json :=
  .obj [("imports", .arr (sources.map fun source => .obj [("source", .str source)]))]

end Record

namespace FactMap

variable {l : Limits}

/-- What becomes of an entry follows from how its record is read. -/
theorem settle_cases (l : Limits) (e : Json × Json) :
    (∃ record, Record.read l e.1 e.2 = .ok record ∧ settle l e = .ok (.ok record)) ∨
    (∃ error module, Record.read l e.1 e.2 = .error (.refused error) ∧
      e.1.displayed l = .ok module ∧
      settle l e = .ok (.error { module, message := error.message })) ∨
    ∃ error, Record.read l e.1 e.2 = .error (.unshown error) ∧ settle l e = .error error := by
  unfold settle
  cases read : Record.read l e.1 e.2 with
  | ok record => exact .inl ⟨record, rfl, rfl⟩
  | error stop =>
    cases stop with
    | refused error =>
      obtain ⟨module, shown⟩ := Record.exists_displayed_of_refused read
      refine .inr (.inl ⟨error, module, rfl, shown, ?_⟩)
      dsimp only
      rw [shown]
      rfl
    | unshown error => exact .inr (.inr ⟨error, rfl, rfl⟩)

theorem moduleOf_eq (l : Limits) (e : Json × Json) :
    moduleOf l e = (Record.read l e.1 e.2).toOption := by
  unfold moduleOf
  obtain ⟨_, read, settled⟩ | ⟨_, _, read, -, settled⟩ | ⟨_, read, settled⟩ := settle_cases l e <;>
    simp [read, settled, Except.toOption]

theorem moduleOf_eq_some_iff {e : Json × Json} {record : Text × ModuleFacts} :
    moduleOf l e = some record ↔ Record.read l e.1 e.2 = .ok record := by
  rw [moduleOf_eq]
  cases Record.read l e.1 e.2 <;> simp [Except.toOption]

theorem obstacleOf_eq_some_iff {e : Json × Json} {error : ShowError} :
    obstacleOf l e = some error ↔ Record.read l e.1 e.2 = .error (.unshown error) := by
  unfold obstacleOf
  obtain ⟨_, read, settled⟩ | ⟨_, _, read, -, settled⟩ | ⟨_, read, settled⟩ := settle_cases l e <;>
    simp [read, settled]

/-- An error names the key of a refused entry and says why it was refused. -/
theorem errorOf_eq_some_iff {e : Json × Json} {error : ModuleError} :
    errorOf l e = some error ↔ ∃ reason, Record.read l e.1 e.2 = .error (.refused reason) ∧
      e.1.displayed l = .ok error.module ∧ error.message = reason.message := by
  unfold errorOf
  obtain ⟨_, read, settled⟩ | ⟨reason, name, read, shown, settled⟩ | ⟨_, read, settled⟩ :=
    settle_cases l e
  · simp [read, settled]
  · obtain ⟨module, message⟩ := error
    simp [read, shown, settled, eq_comm]
  · simp [read, settled]

/-- Entries sorted into modules, errors and obstacles. Each entry is on one of the three
lists, and all of them keep the order of the entries. -/
inductive Sorted (l : Limits) : List (Json × Json) → List (Text × ModuleFacts) →
    List ModuleError → List ShowError → Prop
  | nil : Sorted l [] [] [] []
  | accepted {e : Json × Json} {record : Text × ModuleFacts} {entries modules errors obstacles}
      (read : Record.read l e.1 e.2 = .ok record)
      (rest : Sorted l entries modules errors obstacles) :
      Sorted l (e :: entries) (record :: modules) errors obstacles
  | refused {e : Json × Json} {error : RecordError} {name : Text}
      {entries modules errors obstacles}
      (read : Record.read l e.1 e.2 = .error (.refused error)) (named : e.1.displayed l = .ok name)
      (rest : Sorted l entries modules errors obstacles) :
      Sorted l (e :: entries) modules ({ module := name, message := error.message } :: errors)
        obstacles
  | unread {e : Json × Json} {reason : ShowError} {entries modules errors obstacles}
      (read : Record.read l e.1 e.2 = .error (.unshown reason))
      (rest : Sorted l entries modules errors obstacles) :
      Sorted l (e :: entries) modules errors (reason :: obstacles)

theorem sorted_filterMap (l : Limits) (entries : List (Json × Json)) :
    Sorted l entries (entries.filterMap (moduleOf l)) (entries.filterMap (errorOf l))
      (entries.filterMap (obstacleOf l)) := by
  induction entries with
  | nil => exact .nil
  | cons e entries ih =>
    rw [List.filterMap_cons, List.filterMap_cons, List.filterMap_cons, moduleOf, errorOf,
      obstacleOf]
    obtain ⟨record, read, settled⟩ | ⟨error, name, read, named, settled⟩ |
      ⟨reason, read, settled⟩ := settle_cases l e
    · rw [settled]
      exact .accepted read ih
    · rw [settled]
      exact .refused read named ih
    · rw [settled]
      exact .unread read ih

/-- The three lists together have one element for each entry. -/
theorem Sorted.length_eq {entries : List (Json × Json)} {modules errors obstacles}
    (h : Sorted l entries modules errors obstacles) :
    entries.length = modules.length + errors.length + obstacles.length := by
  induction h with
  | nil => rfl
  | accepted | refused | unread => simp only [List.length_cons]; omega

variable (m : FactMap)

theorem mem_accepted_iff {e : Text × ModuleFacts} :
    e ∈ m.accepted l ↔ ∃ entry ∈ m.entries, Record.read l entry.1 entry.2 = .ok e := by
  simp only [accepted, List.mem_filterMap, moduleOf_eq_some_iff]

/-- The paths of accepted entries are absolute. -/
theorem isAbsolute_of_mem_accepted {e : Text × ModuleFacts} (he : e ∈ m.accepted l) :
    Path.isAbsolute e.1 = true := by
  obtain ⟨entry, -, read⟩ := m.mem_accepted_iff.1 he
  exact (Record.read_eq_ok_iff.1 read).1.2

/-- Different entries are accepted under different paths. -/
theorem nodup_accepted (l : Limits) : ((m.accepted l).map Prod.fst).Nodup := by
  rw [List.Nodup, List.pairwise_map, accepted, List.pairwise_filterMap]
  refine m.distinct.imp fun {a b} other e he e' he' same => ?_
  have named {x : Json × Json} {e : Text × ModuleFacts} (h : moduleOf l x = some e) :
      x.1 = .str e.1 :=
    (Record.read_eq_ok_iff.1 (moduleOf_eq_some_iff.1 h)).1.1
  rw [named he, named he', same] at other
  simp [Json.sameKey] at other

/-- The modules are the accepted entries as they stand. -/
@[simp] theorem entries_modules (l : Limits) : (m.modules l).entries = m.accepted l :=
  Table.entries_ofList (m.nodup_accepted l)

theorem isAbsolute_of_mem_keys {path : Text} (hpath : path ∈ (m.modules l).keys) :
    Path.isAbsolute path = true := by
  rw [Table.keys, entries_modules] at hpath
  obtain ⟨e, he, rfl⟩ := List.mem_map.1 hpath
  exact m.isAbsolute_of_mem_accepted he

theorem obstacle?_eq_none_iff :
    m.obstacle? l = none ↔ ∀ e ∈ m.entries, obstacleOf l e = none :=
  List.findSome?_eq_none_iff

/-- The obstacles to reading a map, in the order of its entries. -/
def obstacles (l : Limits) (m : FactMap) : List ShowError := m.entries.filterMap (obstacleOf l)

theorem obstacle?_eq_head? : m.obstacle? l = (m.obstacles l).head? :=
  List.head?_filterMap.symm

theorem mem_obstacles_of_obstacle? {reason : ShowError} (first : m.obstacle? l = some reason) :
    reason ∈ m.obstacles l :=
  List.mem_of_mem_head? (m.obstacle?_eq_head? ▸ first)

/-- Every entry is accepted, refused or an obstacle. -/
theorem size_eq :
    m.size = (m.modules l).size + (m.errors l).length + (m.obstacles l).length := by
  rw [Table.size, entries_modules]
  exact (sorted_filterMap l m.entries).length_eq

theorem size_eq_of_readable (readable : m.obstacle? l = none) :
    m.size = (m.modules l).size + (m.errors l).length := by
  rw [obstacle?_eq_head?, List.head?_eq_none_iff] at readable
  rw [m.size_eq (l := l), readable, List.length_nil, Nat.add_zero]

section Reordering

variable {m m' : FactMap} (perm : m.entries.Perm m'.entries)

include perm

theorem entries_modules_perm : (m.modules l).entries.Perm (m'.modules l).entries := by
  rw [entries_modules, entries_modules]
  exact perm.filterMap _

theorem keys_modules_perm : (m.modules l).keys.Perm (m'.modules l).keys :=
  (entries_modules_perm perm).map _

theorem errors_perm : (m.errors l).Perm (m'.errors l) := perm.filterMap _

theorem obstacles_perm : (m.obstacles l).Perm (m'.obstacles l) := perm.filterMap _

theorem obstacle?_eq_none_iff_of_perm : m.obstacle? l = none ↔ m'.obstacle? l = none := by
  simp only [obstacle?_eq_none_iff, perm.mem_iff]

end Reordering

/-- Entries with different keys are listed as they are written. -/
theorem entries_ofList {pairs : List (Json × Json)}
    (distinct : pairs.Pairwise fun a b => Json.sameKey a.1 b.1 = false) :
    (ofList pairs).entries = pairs := by
  have added (l : List (Json × Json)) (e : Json × Json)
      (fresh : ∀ x ∈ l, Json.sameKey x.1 e.1 = false) : put l e.1 e.2 = l ++ [e] := by
    induction l with
    | nil => rfl
    | cons first rest ih =>
      obtain ⟨other, fresh⟩ := List.forall_mem_cons.1 fresh
      rw [put, other, if_neg (by simp), ih fresh, List.cons_append]
  have appended (pairs : List (Json × Json)) (m : FactMap)
      (distinct : (m.entries ++ pairs).Pairwise fun a b => Json.sameKey a.1 b.1 = false) :
      (pairs.foldl (fun m e => { entries := put m.entries e.1 e.2
                                 distinct := pairwise_put e.1 e.2 m.distinct }) m).entries =
        m.entries ++ pairs := by
    induction pairs generalizing m with
    | nil => rw [List.append_nil]; rfl
    | cons e pairs ih =>
      have next : put m.entries e.1 e.2 = m.entries ++ [e] :=
        added m.entries e fun x hx =>
          (List.pairwise_append.1 distinct).2.2 x hx e List.mem_cons_self
      have moved : m.entries ++ e :: pairs = (put m.entries e.1 e.2) ++ pairs := by
        rw [next, List.append_assoc]
        rfl
      rw [List.foldl_cons, moved]
      rw [moved] at distinct
      exact ih _ distinct
  exact appended pairs { entries := [], distinct := List.Pairwise.nil } distinct

end FactMap

end ModuleAudit
