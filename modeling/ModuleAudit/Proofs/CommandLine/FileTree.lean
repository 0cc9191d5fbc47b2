import ModuleAudit.CommandLine.FileTree
import ModuleAudit.Proofs.Traversal

/-!
# What is written can be read

Writing puts a file at a place where no directory is. Directories stay what they are
and nothing that was there disappears, so whatever path led to a place before leads to
it still. The path that was written leads to the new file.
-/

namespace ModuleAudit.FileTree

variable {t : FileTree} {place : Place} {content : ByteArray}

/-- Put a file at a place, over a file that is there. -/
def put (t : FileTree) (place : Place) (content : ByteArray) : FileTree :=
  { files := t.files.insert place (some content) }

theorem node?_put_self (nonempty : place ≠ []) :
    (t.put place content).node? place = some (.file content) := by
  cases place with
  | nil => exact absurd rfl nonempty
  | cons name rest => simp [node?, put, Table.get?_insert]

theorem node?_put_of_ne {other : Place} (different : other ≠ place) :
    (t.put place content).node? other = t.node? other := by
  cases other with
  | nil => rfl
  | cons name rest => simp [node?, put, Table.get?_insert, Ne.symm different]

/-- A directory stays one where a file is put. -/
theorem node?_put_of_directory (free : t.node? place ≠ some .directory) {other : Place}
    (directory : t.node? other = some .directory) :
    (t.put place content).node? other = some .directory := by
  have different : other ≠ place := fun same => free (same ▸ directory)
  rw [node?_put_of_ne different, directory]

theorem isSome_node?_put (nonempty : place ≠ []) {other : Place}
    (there : (t.node? other).isSome) : ((t.put place content).node? other).isSome := by
  by_cases same : other = place
  · rw [same, node?_put_self nonempty]
    rfl
  · rwa [node?_put_of_ne same]

/-- Where a single name leads from a place. -/
def enter (t : FileTree) (place : Place) (name : FileName) : Except FileError Place :=
  match t.node? place with
  | some .directory =>
    if name = [] || name = .here then .ok place
    else if name = .up then .ok place.dropLast
    else if (t.node? (place ++ [name])).isSome then .ok (place ++ [name])
    else .error .missing
  | _ => .error .notDirectory

theorem follow_cons (t : FileTree) (start : Place) (name : FileName) (rest : List FileName) :
    t.follow start (name :: rest) = t.enter start name >>= fun next => t.follow next rest := by
  rw [follow, enter]
  cases t.node? start with
  | none => rfl
  | some node =>
    cases node with
    | file content => rfl
    | directory =>
      dsimp only
      split
      · rfl
      · split
        · rfl
        · split <;> rfl

/-- Names are followed one after the other. -/
theorem follow_append (t : FileTree) (start : Place) (front back : List FileName) :
    t.follow start (front ++ back) = t.follow start front >>= fun next => t.follow next back := by
  induction front generalizing start with
  | nil => rfl
  | cons name rest ih =>
    rw [List.cons_append, follow_cons, follow_cons]
    cases t.enter start name with
    | error e => rfl
    | ok next => exact ih next

/-- A name that leads somewhere leads there still once a file is put. -/
theorem enter_put (nonempty : place ≠ []) (free : t.node? place ≠ some .directory)
    {start goal : Place} {name : FileName} (leads : t.enter start name = .ok goal) :
    (t.put place content).enter start name = .ok goal := by
  rw [enter] at leads ⊢
  split at leads
  · rename_i directory
    rw [node?_put_of_directory free directory]
    dsimp only
    split at leads
    · rw [if_pos ‹_›, leads]
    · split at leads
      · rw [if_neg ‹_›, if_pos ‹_›, leads]
      · split at leads
        · rename_i there
          rw [if_neg ‹_›, if_neg ‹_›, if_pos (isSome_node?_put nonempty there), leads]
        · cases leads
  · cases leads

/-- So do several names. -/
theorem follow_put (nonempty : place ≠ []) (free : t.node? place ≠ some .directory)
    {start goal : Place} {names : List FileName} (leads : t.follow start names = .ok goal) :
    (t.put place content).follow start names = .ok goal := by
  induction names generalizing start with
  | nil => exact leads
  | cons name rest ih =>
    rw [follow_cons] at leads ⊢
    obtain ⟨next, first, leads⟩ := ok_steps_of_bind leads
    exact bind_of_ok_steps (enter_put nonempty free first) (ih leads)

/-- Where a new file is created: in the directory to which the front of its path leads,
under the last name of the path, which is that of no directory. -/
theorem exists_parent_of_locateNew {cwd : Place} {path : Text}
    (located : t.locateNew cwd path = .ok place) :
    ∃ front name parent, namesOf? path = some (front ++ [name]) ∧ path.isEmpty = false ∧
      t.follow (startOf cwd path) front = .ok parent ∧ t.node? parent = some .directory ∧
      (name ≠ [] ∧ name ≠ .here ∧ name ≠ .up) ∧ place = parent ++ [name] := by
  unfold locateNew at located
  dsimp only at located
  split at located
  · cases located
  · rename_i names spelled
    split at located
    · cases located
    · rename_i nonempty
      split at located
      · cases located
      · rename_i parent leads
        split at located
        · rename_i name directory last
          split at located
          · cases located
          · rename_i proper
            simp only [Bool.or_eq_true, decide_eq_true_eq, not_or, not_not] at proper
            obtain ⟨⟨⟨same, named⟩, notHere⟩, notUp⟩ := proper
            rw [same] at spelled
            have split : names.dropLast ++ [name] = names := List.dropLast_append_getLast? name last
            exact ⟨names.dropLast, name, parent, by rw [split, spelled], by simpa using nonempty,
              leads, directory, ⟨named, notHere, notUp⟩, (Except.ok.inj located).symm⟩
        · cases located

/-- Writing puts a file at the place to which its path leads, unless a directory is
there. -/
theorem write_eq_ok_iff {cwd : Place} {path : Text} {t' : FileTree} :
    t.write cwd path content = .ok t' ↔ ∃ place, t.locateNew cwd path = .ok place ∧
      t.node? place ≠ some .directory ∧ t' = t.put place content := by
  rw [write]
  cases t.locateNew cwd path with
  | error e => simp
  | ok place =>
    dsimp only
    split
    · rename_i directory
      simp [directory]
    · rename_i free
      constructor
      · intro written
        exact ⟨place, rfl, free, (Except.ok.inj written).symm⟩
      · rintro ⟨_, located, -, rfl⟩
        cases located
        rfl

/-- What is written under a path is found under it. -/
theorem look_of_write {cwd : Place} {path : Text} {t' : FileTree}
    (written : t.write cwd path content = .ok t') : t'.look cwd path = .file content := by
  obtain ⟨place, located, free, rfl⟩ := write_eq_ok_iff.1 written
  obtain ⟨front, name, parent, spelled, nonempty, leads, directory, proper, rfl⟩ :=
    exists_parent_of_locateNew located
  have new : (t.put (parent ++ [name]) content).node? (parent ++ [name]) = some (.file content) :=
    node?_put_self (List.concat_ne_nil name parent)
  have found : (t.put (parent ++ [name]) content).locate cwd path = .ok (parent ++ [name]) := by
    rw [locate, spelled]
    simp only [nonempty, Bool.false_eq_true, if_false]
    rw [follow_append]
    refine bind_of_ok_steps (follow_put (List.concat_ne_nil name parent) free leads) ?_
    rw [follow_cons]
    refine bind_of_ok_steps ?_ rfl
    rw [enter, node?_put_of_directory free directory]
    simp [proper, new]
  rw [look, found]
  dsimp only
  rw [new]

end ModuleAudit.FileTree
