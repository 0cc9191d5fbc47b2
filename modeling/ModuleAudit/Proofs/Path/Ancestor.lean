import Mathlib.Logic.Function.Iterate
import ModuleAudit.Proofs.Path.Normal

/-!
# The deepest common directory

Stepping out of a canonical path removes its last name, so the directories at or above
it are its starts. The common root is the longest start that the directories of all paths
share, and whatever is at or above all of them is at or above it.

Every path stands below the common root. The way there therefore never climbs, and it
leads back to the path when it is joined to the root.
-/

namespace ModuleAudit.Path

/-- A directory that stepping out of a path leads to, which may be the path itself. -/
def AtOrAbove (directory path : Text) : Prop := ∃ n, parent^[n] path = directory

/-! ## Stepping out -/

theorem iterate_parent_ofNames {names : List Text} (areNames : ∀ s ∈ names, IsName s) (n : Nat) :
    parent^[n] (ofNames names) = ofNames (names.take (names.length - n)) := by
  induction n with
  | zero => simp
  | succ n ih =>
    have remaining : ∀ s ∈ names.take (names.length - n), IsName s := fun s hs =>
      areNames s (List.mem_of_mem_take hs)
    have shorter : (names.take (names.length - n)).dropLast =
        names.take (names.length - (n + 1)) := by
      rw [List.dropLast_eq_take, List.take_take, List.length_take]
      congr 1
      omega
    rw [Function.iterate_succ_apply', ih, parent_ofNames remaining, shorter]

/-- The directories at or above a path are the starts of its names. -/
theorem atOrAbove_ofNames_iff {names : List Text} (areNames : ∀ s ∈ names, IsName s)
    {directory : Text} :
    AtOrAbove directory (ofNames names) ↔
      place directory <+: names ∧ directory = ofNames (place directory) := by
  constructor
  · rintro ⟨n, rfl⟩
    have remaining : ∀ s ∈ names.take (names.length - n), IsName s := fun s hs =>
      areNames s (List.mem_of_mem_take hs)
    rw [iterate_parent_ofNames areNames, place_ofNames remaining]
    exact ⟨List.take_prefix _ _, rfl⟩
  · rintro ⟨begins, spelled⟩
    have shorter := begins.length_le
    have kept : names.length - (names.length - (place directory).length) =
        (place directory).length := by omega
    refine ⟨names.length - (place directory).length, ?_⟩
    rw [iterate_parent_ofNames areNames, kept, ← List.prefix_iff_eq_take.1 begins, ← spelled]

/-! ## The common root -/

theorem Canonical.ofNames_place {path : Text} (canonical : Canonical path) :
    ofNames (place path) = path := by
  obtain ⟨names, areNames, rfl⟩ := canonical.exists_names
  rw [place_ofNames areNames]

theorem properSegments_ofNames {names : List Text} (areNames : ∀ s ∈ names, IsName s) :
    properSegments (ofNames names) = names := by
  rw [properSegments, ofNames, segments_cons_slash, List.filter_cons_of_neg (by simp)]
  rcases eq_or_ne names [] with rfl | nonempty
  · rfl
  · rw [segments_joinSegments nonempty fun s hs => (areNames s hs).isPart, List.filter_eq_self]
    intro s hs
    simpa using ⟨(areNames s hs).1, (areNames s hs).2.1⟩

theorem common?_map_ofNames {lists : List (List Text)} (nonempty : lists ≠ [])
    (areNames : ∀ names ∈ lists, ∀ s ∈ names, IsName s) :
    common? (lists.map ofNames) = some (ofNames (commonStartAll lists)) := by
  have proper : (lists.map ofNames).map properSegments = lists := by
    rw [List.map_map]
    exact (List.map_congr_left fun names listed =>
      properSegments_ofNames (areNames names listed)).trans (List.map_id _)
  obtain ⟨first, rest, rfl⟩ := List.exists_cons_of_ne_nil nonempty
  have absolute : ((rest.map ofNames).all fun path =>
      isAbsolute path == isAbsolute (ofNames first)) = true := by
    simp [isAbsolute, ofNames]
  rw [List.map_cons] at proper ⊢
  simp only [common?, absolute, if_true, proper]
  rfl

/-- The common root has the names that the directories of all paths begin with. -/
theorem commonRoot_map_ofNames {lists : List (List Text)} (nonempty : lists ≠ [])
    (areNames : ∀ names ∈ lists, ∀ s ∈ names, IsName s) :
    commonRoot (lists.map ofNames) =
      some (ofNames (commonStartAll (lists.map List.dropLast))) := by
  have parents : (lists.map ofNames).map parent = (lists.map List.dropLast).map ofNames := by
    rw [List.map_map, List.map_map]
    exact List.map_congr_left fun names listed => parent_ofNames (areNames names listed)
  rw [commonRoot, parents]
  refine common?_map_ofNames (by simpa using nonempty) fun names listed s hs => ?_
  obtain ⟨longer, known, rfl⟩ := List.mem_map.1 listed
  exact areNames longer known s ((List.dropLast_sublist longer).subset hs)

/-! ## The way from a directory above -/

theorem commonStart_append {α : Type} [DecidableEq α] (front back : List α) :
    commonStart front (front ++ back) = front := by
  induction front with
  | nil => simp [commonStart]
  | cons a front ih => simp [commonStart, ih]

/-- The way to a path from a directory above it is the rest of its names. -/
theorem fromRoot_ofNames_append {start rest : List Text}
    (areNames : ∀ s ∈ start ++ rest, IsName s) (nonempty : rest ≠ []) :
    fromRoot (ofNames (start ++ rest)) (some (ofNames start)) = joinSegments rest := by
  obtain ⟨startNames, -⟩ := List.forall_mem_append.1 areNames
  have descends : steps start (start ++ rest) = rest := by
    simp [steps, commonStart_append]
  have spelled (names : List Text) : (ofNames names).isEmpty = false := rfl
  have somewhere : rest.isEmpty = false := by simpa using nonempty
  simp only [fromRoot, relative?, spelled, place_ofNames startNames,
    place_ofNames areNames, descends, somewhere, Bool.false_eq_true, if_false, Option.getD_some]

theorem join_ofNames {start rest : List Text} (startNames : ∀ s ∈ start, IsName s)
    (restNames : ∀ s ∈ rest, IsName s) (nonempty : rest ≠ []) :
    join (ofNames start) (joinSegments rest) = ofNames (start ++ rest) := by
  have relative : isAbsolute (joinSegments rest) = false :=
    isAbsolute_joinSegments fun s hs => (restNames s hs).isPart
  rcases eq_or_ne start [] with rfl | below
  · rw [join, relative]
    rfl
  · have named : EndsWithName (ofNames start) :=
      (endsWithName_joinSegments below fun s hs => (startNames s hs).isPart).append [slash]
    rw [join_of_endsWithName named relative,
      ofNames_of_ne_nil (List.append_ne_nil_of_left_ne_nil below rest), List.flatMap_append,
      ← ofNames_of_ne_nil below, ← ofNames_of_ne_nil nonempty]
    rfl

/-! ## Canonical paths -/

theorem names_dropLast_place (path : Text) : ∀ s ∈ (place path).dropLast, IsName s := fun s hs =>
  names_place path s ((List.dropLast_sublist _).subset hs)

theorem Canonical.atOrAbove_parent_iff {path : Text} (canonical : Canonical path)
    {directory : Text} :
    AtOrAbove directory (parent path) ↔
      place directory <+: (place path).dropLast ∧ directory = ofNames (place directory) := by
  have stepped : parent path = ofNames (place path).dropLast := by
    conv_lhs => rw [← canonical.ofNames_place]
    exact parent_ofNames (names_place path)
  rw [stepped]
  exact atOrAbove_ofNames_iff (names_dropLast_place path)

/-- The names that the directories of all paths begin with are those that the common root
begins with. -/
theorem exists_commonRoot {paths : List Text} (nonempty : paths ≠ [])
    (canonical : ∀ path ∈ paths, Canonical path) :
    ∃ names, commonRoot paths = some (ofNames names) ∧ (∀ s ∈ names, IsName s) ∧
      ∀ start, start <+: names ↔ ∀ path ∈ paths, start <+: (place path).dropLast := by
  have areNames : ∀ names ∈ paths.map place, ∀ s ∈ names, IsName s := by
    intro names listed
    obtain ⟨path, -, rfl⟩ := List.mem_map.1 listed
    exact names_place path
  have spelled : (paths.map place).map ofNames = paths := by
    rw [List.map_map]
    exact (List.map_congr_left fun path known => (canonical path known).ofNames_place).trans
      (List.map_id _)
  have rooted := commonRoot_map_ofNames (by simpa using nonempty) areNames
  have shared (start : List Text) :
      start <+: commonStartAll ((paths.map place).map List.dropLast) ↔
        ∀ path ∈ paths, start <+: (place path).dropLast := by
    rw [prefix_commonStartAll_iff (by simpa using nonempty)]
    simp
  rw [spelled] at rooted
  refine ⟨_, rooted, fun s hs => ?_, shared⟩
  obtain ⟨first, known⟩ := List.exists_mem_of_ne_nil paths nonempty
  have begins := (shared _).1 (List.prefix_refl _) first known
  exact names_dropLast_place first s (begins.subset hs)

/-- Below a start of its directory a path goes on with at least one name. -/
theorem Canonical.exists_rest {path : Text} (canonical : Canonical path) (proper : path ≠ [slash])
    {start : List Text} (begins : start <+: (place path).dropLast) :
    ∃ rest, rest ≠ [] ∧ place path = start ++ rest := by
  have somewhere : place path ≠ [] := by
    intro none
    have spelled := canonical.ofNames_place
    rw [none] at spelled
    exact proper spelled.symm
  obtain ⟨middle, split⟩ := begins
  refine ⟨middle ++ [(place path).getLast somewhere], by simp, ?_⟩
  rw [← List.append_assoc, split, List.dropLast_concat_getLast]

/-- A way from above is relative, never climbs, and leads to the path. -/
theorem Canonical.fromRoot_descends {path : Text} (canonical : Canonical path)
    (proper : path ≠ [slash]) {start : List Text} (begins : start <+: (place path).dropLast) :
    isAbsolute (fromRoot path (some (ofNames start))) = false ∧
      up ∉ segments (fromRoot path (some (ofNames start))) ∧
      join (ofNames start) (fromRoot path (some (ofNames start))) = path := by
  obtain ⟨rest, nonempty, split⟩ := canonical.exists_rest proper begins
  have areNames := names_place path
  rw [split] at areNames
  obtain ⟨startNames, restNames⟩ := List.forall_mem_append.1 areNames
  have parts : ∀ s ∈ rest, IsPart s := fun s hs => (restNames s hs).isPart
  rw [← canonical.ofNames_place, split, fromRoot_ofNames_append areNames nonempty]
  refine ⟨isAbsolute_joinSegments parts, ?_, join_ofNames startNames restNames nonempty⟩
  rw [segments_joinSegments nonempty parts]
  exact fun climbs => (restNames up climbs).2.2.1 rfl

/-- The common root of canonical paths other than `/` is the deepest directory at or above
the directories of all of them. From there the way to each path is relative, never climbs
and leads back to the path, so no two paths have the same way. -/
theorem commonRoot_deepest {paths : List Text} (nonempty : paths ≠ [])
    (canonical : ∀ path ∈ paths, Canonical path) (proper : ∀ path ∈ paths, path ≠ [slash]) :
    ∃ root, commonRoot paths = some root ∧ Canonical root ∧
      (∀ path ∈ paths, AtOrAbove root (parent path)) ∧
      (∀ directory, (∀ path ∈ paths, AtOrAbove directory (parent path)) →
        AtOrAbove directory root) ∧
      (∀ path ∈ paths, isAbsolute (fromRoot path (some root)) = false ∧
        up ∉ segments (fromRoot path (some root)) ∧
        join root (fromRoot path (some root)) = path) ∧
      ∀ path ∈ paths, ∀ other ∈ paths,
        fromRoot path (some root) = fromRoot other (some root) → path = other := by
  obtain ⟨names, rooted, areNames, shared⟩ := exists_commonRoot nonempty canonical
  have begins := (shared names).1 (List.prefix_refl _)
  have ways : ∀ path ∈ paths, _ := fun path known =>
    (canonical path known).fromRoot_descends (proper path known) (begins path known)
  refine ⟨ofNames names, rooted, canonical_ofNames areNames, ?_, ?_, ways, ?_⟩
  · intro path known
    rw [(canonical path known).atOrAbove_parent_iff, place_ofNames areNames]
    exact ⟨begins path known, rfl⟩
  · intro directory all
    have starts : ∀ path ∈ paths, _ := fun path known =>
      (canonical path known).atOrAbove_parent_iff.1 (all path known)
    -- that the directory is spelled by its names is known from any one path
    obtain ⟨first, known⟩ := List.exists_mem_of_ne_nil paths nonempty
    rw [atOrAbove_ofNames_iff areNames, shared]
    exact ⟨fun path known => (starts path known).1, (starts first known).2⟩
  · intro path known other known' same
    rw [← (ways path known).2.2, same, (ways other known').2.2]

/-- `b` begins the names of the other directory and of the third file; only `/a` is shared. -/
theorem commonRoot_deepest_siblings :
    let paths : List Text := ["/a/b/x.js", "/a/bc/y.js", "/a/b.js"]
    (∀ path ∈ paths, Canonical path) ∧ commonRoot paths = some "/a" ∧
      (∀ path ∈ paths, AtOrAbove "/a" (parent path)) ∧
      (∀ directory, (∀ path ∈ paths, AtOrAbove directory (parent path)) →
        AtOrAbove directory "/a") ∧
      paths.map (fun path => fromRoot path (some "/a")) = ["b/x.js", "bc/y.js", "b.js"] ∧
      ∀ path ∈ paths, join "/a" (fromRoot path (some "/a")) = path := by
  intro paths
  have canonical : ∀ path ∈ paths, Canonical path := by decide
  have found : commonRoot paths = some "/a" := by decide
  obtain ⟨root, rooted, -, above, deepest, ways, -⟩ :=
    commonRoot_deepest (by simp [paths]) canonical (by decide)
  obtain rfl : Text.ofString "/a" = root := Option.some.inj (found.symm.trans rooted)
  exact ⟨canonical, found, above, deepest, by decide, fun path known => (ways path known).2.2⟩

end ModuleAudit.Path
