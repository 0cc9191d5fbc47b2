import Mathlib.Data.List.Basic
import ModuleAudit.Path
import ModuleAudit.Text.Matching

/-!
# Following the segments of a path

A slash cuts a path into two whose segments follow one another, so a path that
continues a directory enters its own segments on top of those of the directory.
As long as it never climbs above the place where it began, nothing below its own
segments is looked at: the directory stays, and the rest is followed as if it
stood alone.
-/

namespace ModuleAudit.Path

theorem isAbsolute_iff {path : Text} : isAbsolute path = true ↔ ∃ rest, path = slash :: rest := by
  cases path with
  | nil => simp [isAbsolute]
  | cons c rest => simp [isAbsolute]

theorem segments_append_slash (front back : Text) :
    segments (front ++ slash :: back) = segments front ++ segments back :=
  List.splitOn_append_cons_self front back

theorem slash_not_mem_of_mem_segments {path segment : Text} (listed : segment ∈ segments path) :
    slash ∉ segment := by
  induction path generalizing segment with
  | nil =>
    rw [segments, List.splitOn_nil, List.mem_singleton] at listed
    rw [listed]
    exact List.not_mem_nil
  | cons c path ih =>
    rw [segments, List.splitOn_cons_eq_if_modifyHead] at listed
    split at listed
    · rcases List.mem_cons.1 listed with rfl | listed
      · exact List.not_mem_nil
      · exact ih listed
    · rename_i other
      obtain ⟨first, rest, split⟩ := List.exists_cons_of_ne_nil (List.splitOn_ne_nil slash path)
      rw [segments, split] at ih
      rw [split, List.modifyHead_cons, List.mem_cons] at listed
      rcases listed with rfl | listed
      · have absent : slash ∉ first := ih List.mem_cons_self
        have apart : slash ≠ c := fun same => other (beq_iff_eq.2 same.symm)
        simp [absent, apart]
      · exact ih (List.mem_cons_of_mem _ listed)

/-- A path after its first segment. -/
theorem joinSegments_cons (first : Text) (rest : List Text) :
    joinSegments (first :: rest) = first ++ rest.flatMap (slash :: ·) := by
  induction rest generalizing first with
  | nil => simp [joinSegments]
  | cons second rest ih =>
    rw [joinSegments, List.intercalate_cons_cons]
    change first ++ [slash] ++ joinSegments (second :: rest) = _
    rw [ih]
    simp

theorem joinSegments_append {front : List Text} (nonempty : front ≠ []) (back : List Text) :
    joinSegments (front ++ back) = joinSegments front ++ back.flatMap (slash :: ·) := by
  obtain ⟨first, rest, rfl⟩ := List.exists_cons_of_ne_nil nonempty
  rw [List.cons_append, joinSegments_cons, joinSegments_cons, List.flatMap_append,
    List.append_assoc]

/-! ## Names -/

/-- A segment that names something other than the directory itself and the one
above. -/
def IsName (segment : Text) : Prop :=
  segment ≠ [] ∧ segment ≠ here ∧ segment ≠ up ∧ slash ∉ segment

/-- A segment that is not empty. -/
def IsPart (segment : Text) : Prop := segment ≠ [] ∧ slash ∉ segment

theorem IsName.isPart {segment : Text} (name : IsName segment) : IsPart segment :=
  ⟨name.1, name.2.2.2⟩

/-- A path that ends with a name ends with no slash. -/
def EndsWithName (path : Text) : Prop := ∃ front last, path = front ++ [last] ∧ last ≠ slash

theorem EndsWithName.append {path : Text} (named : EndsWithName path) (front : Text) :
    EndsWithName (front ++ path) := by
  obtain ⟨before, last, rfl, other⟩ := named
  exact ⟨front ++ before, last, (List.append_assoc ..).symm, other⟩

theorem IsPart.endsWithName {segment : Text} (part : IsPart segment) : EndsWithName segment := by
  obtain ⟨nonempty, whole⟩ := part
  obtain ⟨front, last, rfl⟩ := (List.eq_nil_or_concat' segment).resolve_left nonempty
  exact ⟨front, last, rfl, fun same => whole (same ▸ List.mem_append_right _ List.mem_cons_self)⟩

theorem endsWithName_joinSegments {segments : List Text} (nonempty : segments ≠ [])
    (parts : ∀ s ∈ segments, IsPart s) : EndsWithName (joinSegments segments) := by
  obtain ⟨front, last, rfl⟩ := (List.eq_nil_or_concat' segments).resolve_left nonempty
  have part : IsPart last := parts last (List.mem_append_right _ List.mem_cons_self)
  cases front with
  | nil => simpa [joinSegments_cons] using part.endsWithName
  | cons first rest =>
    rw [joinSegments_append (List.cons_ne_nil _ _), List.flatMap_singleton]
    exact (part.endsWithName.append [slash]).append _

theorem EndsWithName.ne_nil {path : Text} (named : EndsWithName path) : path ≠ [] := by
  obtain ⟨front, last, rfl, -⟩ := named
  exact List.append_ne_nil_of_right_ne_nil _ (List.cons_ne_nil _ _)

theorem EndsWithName.ends_slash {path : Text} (named : EndsWithName path) :
    Text.ends "/" path = false := by
  obtain ⟨front, last, rfl, other⟩ := named
  rw [Text.ends, Bool.eq_false_iff]
  intro ends
  obtain ⟨before, same⟩ := List.isSuffixOf_iff_suffix.1 ends
  have equal : [slash] = [last] := List.append_inj_right' same rfl
  exact other (List.singleton_inj.1 equal).symm

theorem joinSegments_eq_nil_iff {segments : List Text} (names : ∀ s ∈ segments, IsName s) :
    joinSegments segments = [] ↔ segments = [] := by
  constructor
  · intro empty
    by_contra nonempty
    exact (endsWithName_joinSegments nonempty fun s hs => (names s hs).isPart).ne_nil empty
  · rintro rfl
    rfl

/-! ## Paths that stay where they began -/

/-- Whether segments that are followed from some levels below a directory never
lead out of it. -/
def staysWithin : Nat → List Text → Bool
  | _, [] => true
  | depth, segment :: rest =>
    if segment = [] ∨ segment = here then staysWithin depth rest
    else if segment = up then 0 < depth && staysWithin (depth - 1) rest
    else staysWithin (depth + 1) rest

/-- Whether one more segment keeps the entered ones all names. -/
def Keeps (absolute : Bool) (entered : List Text) (segment : Text) : Prop :=
  segment = up → absolute = true ∨ entered ≠ []

/-- What is entered are names, as long as no step climbs above the start. -/
theorem names_enter {absolute : Bool} {entered : List Text} {segment : Text}
    (names : ∀ s ∈ entered, IsName s) (whole : slash ∉ segment)
    (keeps : Keeps absolute entered segment) :
    ∀ s ∈ enter absolute entered segment, IsName s := by
  unfold enter
  split
  · exact names
  · rename_i step
    obtain ⟨nonempty, moves⟩ := not_or.1 step
    split
    · rename_i climbs
      cases entered with
      | nil =>
        have absolute : absolute = true := (keeps climbs).resolve_right (absurd rfl)
        simp [absolute]
      | cons last before =>
        have last_ne : last ≠ up := (names last List.mem_cons_self).2.2.1
        simp only [last_ne, if_false]
        exact fun s hs => names s (List.mem_cons_of_mem _ hs)
    · rename_i descends
      exact List.forall_mem_cons.2 ⟨⟨nonempty, moves, descends, whole⟩, names⟩

/-- A step that does not climb above its start looks at nothing before it. -/
theorem enter_append {entered : List Text} {segment : Text} (names : ∀ s ∈ entered, IsName s)
    (keeps : Keeps false entered segment) (absolute : Bool) (before : List Text) :
    enter absolute (entered ++ before) segment = enter false entered segment ++ before := by
  unfold enter
  split
  · rfl
  · split
    · rename_i climbs
      cases entered with
      | nil => exact absurd rfl ((keeps climbs).resolve_left Bool.false_ne_true)
      | cons last below =>
        have last_ne : last ≠ up := (names last List.mem_cons_self).2.2.1
        simp only [List.cons_append, last_ne, if_false]
    · rfl

/-- The depth counted by `staysWithin` is the number of entered segments. -/
theorem staysWithin_cons {entered : List Text} {segment : Text} {rest : List Text}
    (names : ∀ s ∈ entered, IsName s)
    (stays : staysWithin entered.length (segment :: rest) = true) :
    Keeps false entered segment ∧
      staysWithin (enter false entered segment).length rest = true := by
  rw [staysWithin] at stays
  unfold enter
  split at stays
  · rename_i still
    rw [if_pos still]
    refine ⟨fun climbs => ?_, stays⟩
    rw [climbs] at still
    exact absurd still (by decide)
  · rename_i step
    rw [if_neg step]
    split at stays
    · rename_i climbs
      rw [if_pos climbs]
      cases entered with
      | nil => simp at stays
      | cons last below =>
        have last_ne : last ≠ up := (names last List.mem_cons_self).2.2.1
        simp only [last_ne, if_false]
        exact ⟨fun _ => .inr (List.cons_ne_nil _ _), by simpa using stays⟩
    · rename_i descends
      rw [if_neg descends]
      exact ⟨fun climbs => absurd climbs descends, stays⟩

/-- Segments that never climb above their start are followed as if they stood
alone, and all that they enter are names. -/
theorem foldl_enter_of_staysWithin {entered segments : List Text}
    (names : ∀ s ∈ entered, IsName s) (whole : ∀ s ∈ segments, slash ∉ s)
    (stays : staysWithin entered.length segments = true) (absolute : Bool) (before : List Text) :
    segments.foldl (enter absolute) (entered ++ before) =
        segments.foldl (enter false) entered ++ before ∧
      ∀ s ∈ segments.foldl (enter false) entered, IsName s := by
  induction segments generalizing entered with
  | nil => exact ⟨rfl, names⟩
  | cons segment rest ih =>
    obtain ⟨segment_whole, whole⟩ := List.forall_mem_cons.1 whole
    obtain ⟨keeps, stays⟩ := staysWithin_cons names stays
    rw [List.foldl_cons, List.foldl_cons, enter_append names keeps]
    exact ih (names_enter names segment_whole keeps) whole stays

theorem reduce_append_of_staysWithin {inner : List Text} (whole : ∀ s ∈ inner, slash ∉ s)
    (stays : staysWithin 0 inner = true) (absolute : Bool) (outer : List Text) :
    reduce absolute (outer ++ inner) = reduce absolute outer ++ reduce false inner := by
  have nothing : ∀ s ∈ ([] : List Text), IsName s := by simp
  have followed := foldl_enter_of_staysWithin nothing whole stays absolute
    (outer.foldl (enter absolute) [])
  rw [reduce, List.foldl_append]
  change (inner.foldl (enter absolute) ([] ++ outer.foldl (enter absolute) [])).reverse = _
  rw [followed.1, List.reverse_append]
  rfl

theorem names_reduce_of_staysWithin {inner : List Text} (whole : ∀ s ∈ inner, slash ∉ s)
    (stays : staysWithin 0 inner = true) : ∀ s ∈ reduce false inner, IsName s := by
  have nothing : ∀ s ∈ ([] : List Text), IsName s := by simp
  intro s hs
  exact (foldl_enter_of_staysWithin nothing whole stays false []).2 s (List.mem_reverse.1 hs)

/-- From the root every path leads to names only. -/
theorem names_reduce_of_absolute {segments : List Text} (whole : ∀ s ∈ segments, slash ∉ s) :
    ∀ s ∈ reduce true segments, IsName s := by
  have followed (entered : List Text) (names : ∀ s ∈ entered, IsName s) :
      ∀ s ∈ segments.foldl (enter true) entered, IsName s := by
    induction segments generalizing entered with
    | nil => exact names
    | cons segment rest ih =>
      obtain ⟨segment_whole, whole⟩ := List.forall_mem_cons.1 whole
      exact ih whole _ (names_enter names segment_whole fun _ => .inl rfl)
  intro s hs
  exact followed [] (by simp) s (List.mem_reverse.1 hs)

end ModuleAudit.Path
