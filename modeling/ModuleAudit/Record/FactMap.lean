import ModuleAudit.Log
import ModuleAudit.Record.Reading

/-!
# Fact maps

A fact map gives JSON facts under JSON keys. Reading it splits its entries into
the modules that are accepted and the errors of those that are not, each in the
order of the map; an entry's outcome depends on that entry alone.

An entry with a value that cannot be shown has no outcome. The map cannot be read
then, and of several such entries the first one counts.
-/

namespace ModuleAudit

/-- A map from keys to facts as they arrive; no two keys are the same. -/
structure FactMap where
  entries : List (Json × Json)
  distinct : entries.Pairwise fun a b => Json.sameKey a.1 b.1 = false

namespace FactMap

def size (m : FactMap) : Nat := m.entries.length

/-- Write one entry: in the place of the key if it is there, else at the end. -/
def put (entries : List (Json × Json)) (key value : Json) : List (Json × Json) :=
  match entries with
  | [] => [(key, value)]
  | e :: rest =>
    if Json.sameKey e.1 key then (e.1, value) :: rest else e :: put rest key value

theorem mem_map_fst_put {entries : List (Json × Json)} {key value : Json} {e : Json × Json}
    (h : e ∈ put entries key value) : e.1 = key ∨ e.1 ∈ entries.map Prod.fst := by
  induction entries with
  | nil => simp only [put, List.mem_singleton] at h; simp [h]
  | cons head rest ih =>
    simp only [put] at h
    split at h
    · rcases List.mem_cons.1 h with rfl | h
      · simp
      · exact .inr (List.mem_map_of_mem (List.mem_cons_of_mem _ h))
    · rcases List.mem_cons.1 h with rfl | h
      · simp
      · rcases ih h with same | known
        · exact .inl same
        · exact .inr (by simpa using .inr (by simpa using known))

theorem pairwise_put {entries : List (Json × Json)} (key value : Json)
    (distinct : entries.Pairwise fun a b => Json.sameKey a.1 b.1 = false) :
    (put entries key value).Pairwise fun a b => Json.sameKey a.1 b.1 = false := by
  induction entries with
  | nil => simp [put]
  | cons head rest ih =>
    rw [List.pairwise_cons] at distinct
    simp only [put]
    split
    · exact List.pairwise_cons.2 ⟨distinct.1, distinct.2⟩
    · rename_i other
      refine List.pairwise_cons.2 ⟨?_, ih distinct.2⟩
      intro e he
      rcases mem_map_fst_put he with same | known
      · simpa [same] using other
      · obtain ⟨e', he', same⟩ := List.mem_map.1 known
        rw [← same]
        exact distinct.1 e' he'

/-- The map that a list of entries writes: first key and place, last value. -/
def ofList (pairs : List (Json × Json)) : FactMap :=
  pairs.foldl
    (fun m e => { entries := put m.entries e.1 e.2, distinct := pairwise_put e.1 e.2 m.distinct })
    { entries := [], distinct := List.Pairwise.nil }

/-- What becomes of an entry: a module, or an error under the name that its key
shows. -/
def settle (l : Limits) (e : Json × Json) :
    Except ShowError (Except ModuleError (Text × ModuleFacts)) :=
  match Record.read l e.1 e.2 with
  | .ok record => .ok (.ok record)
  | .error (.unshown error) => .error error
  | .error (.refused error) => do
    let module ← e.1.displayed l
    return .error { module, message := error.message }

def obstacleOf (l : Limits) (e : Json × Json) : Option ShowError :=
  match settle l e with
  | .error error => some error
  | .ok _ => none

def moduleOf (l : Limits) (e : Json × Json) : Option (Text × ModuleFacts) :=
  match settle l e with
  | .ok (.ok record) => some record
  | _ => none

def errorOf (l : Limits) (e : Json × Json) : Option ModuleError :=
  match settle l e with
  | .ok (.error error) => some error
  | _ => none

/-- The obstacle to reading a map, which is that of its first entry with one. -/
def obstacle? (l : Limits) (m : FactMap) : Option ShowError :=
  m.entries.findSome? (obstacleOf l)

def accepted (l : Limits) (m : FactMap) : List (Text × ModuleFacts) :=
  m.entries.filterMap (moduleOf l)

def modules (l : Limits) (m : FactMap) : ModuleMap := Table.ofList (m.accepted l)

def errors (l : Limits) (m : FactMap) : List ModuleError := m.entries.filterMap (errorOf l)

/-- The lines that reading a map logs, up to an entry that cannot be read. -/
def journal (l : Limits) (m : FactMap) : List LogLine :=
  ((m.entries.takeWhile fun e => (obstacleOf l e).isNone).filterMap (errorOf l)).map fun e =>
    .warning .engine ("Skipping malformed module record: " ++ e.message)

end FactMap

end ModuleAudit
