import ModuleAudit.Proofs.CommonRoot
import ModuleAudit.Proofs.Path.Under

/-!
# Canonical paths

A canonical path is absolute, in normal form and begins with one slash, so it is
determined by the names on the way from the root. Between canonical paths
`relative?` is inverse to `join`: read from the start, the path from there to a
place leads to that place. The steps climb to the deepest directory that both
share, which is entered in the start already, and descend from it.
-/

namespace ModuleAudit.Path

/-- The path that leads from the root through names. -/
def ofNames (names : List Text) : Text := slash :: joinSegments names

/-- An absolute path in normal form that begins with one slash. -/
structure Canonical (path : Text) : Prop where
  absolute : isAbsolute path = true
  normal : normalize path = path
  single : ¬ [slash, slash] <+: path

instance (path : Text) : Decidable (Canonical path) :=
  decidable_of_iff
    (isAbsolute path = true ∧ normalize path = path ∧ ¬ [slash, slash] <+: path)
    ⟨fun h => ⟨h.1, h.2.1, h.2.2⟩, fun h => ⟨h.absolute, h.normal, h.single⟩⟩

/-! ## Segments of joined segments -/

theorem segments_cons_slash (path : Text) : segments (slash :: path) = [] :: segments path :=
  segments_append_slash [] path

theorem segments_joinSegments {parts : List Text} (nonempty : parts ≠ [])
    (whole : ∀ s ∈ parts, IsPart s) : segments (joinSegments parts) = parts :=
  List.splitOn_intercalate slash (fun s hs => (whole s hs).2) nonempty

theorem IsPart.isAbsolute_append {segment : Text} (part : IsPart segment) (back : Text) :
    isAbsolute (segment ++ back) = false := by
  obtain ⟨nonempty, apart⟩ := part
  obtain ⟨c, rest, rfl⟩ := List.exists_cons_of_ne_nil nonempty
  have other : c ≠ slash := fun same => apart (same ▸ List.mem_cons_self)
  simpa [isAbsolute] using other

theorem isAbsolute_joinSegments {parts : List Text} (whole : ∀ s ∈ parts, IsPart s) :
    isAbsolute (joinSegments parts) = false := by
  cases parts with
  | nil => rfl
  | cons first rest =>
    rw [joinSegments_cons]
    exact (whole first List.mem_cons_self).isAbsolute_append _

theorem isPart_up : IsPart up :=
  ⟨List.cons_ne_nil _ _, by decide⟩

/-! ## Following names and steps -/

theorem enter_of_isName {segment : Text} (name : IsName segment) (absolute : Bool)
    (entered : List Text) : enter absolute entered segment = segment :: entered := by
  obtain ⟨nonempty, moves, descends, -⟩ := name
  unfold enter
  rw [if_neg (not_or.2 ⟨nonempty, moves⟩), if_neg descends]

theorem foldl_enter_of_names {names : List Text} (areNames : ∀ s ∈ names, IsName s)
    (absolute : Bool) (entered : List Text) :
    names.foldl (enter absolute) entered = names.reverse ++ entered := by
  induction names generalizing entered with
  | nil => rfl
  | cons name rest ih =>
    obtain ⟨isName, areNames⟩ := List.forall_mem_cons.1 areNames
    rw [List.foldl_cons, enter_of_isName isName, ih areNames, List.reverse_cons,
      List.append_assoc, List.singleton_append]

theorem foldl_enter_replicate_up {entered : List Text} (areNames : ∀ s ∈ entered, IsName s)
    (n : Nat) : (List.replicate n up).foldl (enter true) entered = entered.drop n := by
  induction n generalizing entered with
  | zero => rfl
  | succ n ih =>
    rw [List.replicate_succ, List.foldl_cons]
    cases entered with
    | nil =>
      have atRoot : enter true [] up = [] := by decide
      rw [atRoot, ih areNames, List.drop_nil, List.drop_nil]
    | cons last before =>
      obtain ⟨isName, areNames⟩ := List.forall_mem_cons.1 areNames
      have climbed : enter true (last :: before) up = before := by
        unfold enter
        rw [if_neg (by decide), if_pos rfl]
        exact if_neg isName.2.2.1
      rw [climbed, ih areNames, List.drop_succ_cons]

/-- From a start, the steps to a place lead to that place. -/
theorem reduce_append_steps {start place : List Text} (startNames : ∀ s ∈ start, IsName s)
    (placeNames : ∀ s ∈ place, IsName s) : reduce true (start ++ steps start place) = place := by
  obtain ⟨shared_start, shared_place⟩ :=
    (prefix_commonStart_iff _ start place).1 (List.prefix_refl _)
  unfold steps
  generalize commonStart start place = shared at shared_start shared_place ⊢
  obtain ⟨below, rfl⟩ := shared_start
  obtain ⟨rest, rfl⟩ := shared_place
  have restNames : ∀ s ∈ rest, IsName s := fun s hs => placeNames s (List.mem_append_right _ hs)
  have entered : ∀ s ∈ (shared ++ below).reverse, IsName s := fun s hs =>
    startNames s (List.mem_reverse.1 hs)
  have climbs : (shared ++ below).length - shared.length = below.reverse.length := by simp
  dsimp only
  rw [reduce, List.foldl_append, List.foldl_append, foldl_enter_of_names startNames,
    List.append_nil, foldl_enter_replicate_up entered, climbs, List.reverse_append,
    List.drop_left, List.drop_left, foldl_enter_of_names restNames, List.reverse_append,
    List.reverse_reverse, List.reverse_reverse]

theorem reduce_append_here (absolute : Bool) (front back : List Text) :
    reduce absolute (front ++ here :: back) = reduce absolute (front ++ back) := by
  rw [reduce, reduce, List.foldl_append, List.foldl_append]
  rfl

theorem isPart_of_mem_steps {start place : List Text} (placeNames : ∀ s ∈ place, IsName s)
    {s : Text} (hs : s ∈ steps start place) : IsPart s := by
  rcases List.mem_append.1 hs with climbs | descends
  · rw [List.eq_of_mem_replicate climbs]
    exact isPart_up
  · exact (placeNames s (List.mem_of_mem_drop descends)).isPart

/-! ## Canonical paths and their names -/

theorem root_cons_slash {path : Text} (relative : isAbsolute path = false) :
    root (slash :: path) = [slash] := by
  cases path with
  | nil => rfl
  | cons c path =>
    have other : c ≠ slash := by simpa [isAbsolute] using relative
    simp [root, other]

theorem Canonical.exists_names {path : Text} (canonical : Canonical path) :
    ∃ names, (∀ s ∈ names, IsName s) ∧ path = ofNames names := by
  obtain ⟨absolute, normal, single⟩ := canonical
  refine ⟨reduce true (segments path),
    names_reduce_of_absolute fun s hs => slash_not_mem_of_mem_segments hs, ?_⟩
  rw [normalize_of_absolute absolute] at normal
  obtain ⟨rest, rfl⟩ := isAbsolute_iff.1 absolute
  have relative : isAbsolute rest = false := by
    rw [Bool.eq_false_iff]
    intro doubled
    obtain ⟨rest, rfl⟩ := isAbsolute_iff.1 doubled
    exact single ⟨rest, rfl⟩
  rw [root_cons_slash relative] at normal
  exact normal.symm

/-- A relative path read from a directory enters its segments after the names of the
directory. -/
theorem normalize_join_ofNames {names : List Text} (areNames : ∀ s ∈ names, IsName s)
    {path : Text} (relative : isAbsolute path = false) :
    normalize (join (ofNames names) path) = ofNames (reduce true (names ++ segments path)) := by
  have parts : ∀ s ∈ names, IsPart s := fun s hs => (areNames s hs).isPart
  -- At the root the separating slash is there already.
  obtain ⟨rest, spelled, begins, split⟩ : ∃ rest, join (ofNames names) path = slash :: rest ∧
      isAbsolute rest = false ∧ segments rest = names ++ segments path := by
    rcases eq_or_ne names [] with rfl | nonempty
    · refine ⟨path, ?_, relative, rfl⟩
      simp [join, ofNames, joinSegments, relative]
    · obtain ⟨front, last, ends, other⟩ := endsWithName_joinSegments nonempty parts
      refine ⟨joinSegments names ++ slash :: path, ?_, ?_, ?_⟩
      · simp [join, ofNames, relative, ends, other, List.getLast?_cons]
      · have relative := isAbsolute_joinSegments parts
        rw [ends] at relative ⊢
        cases front <;> exact relative
      · rw [segments_append_slash, segments_joinSegments nonempty parts]
  rw [spelled, normalize_of_absolute rfl, root_cons_slash begins, segments_cons_slash, split]
  rfl

theorem normalize_ofNames {names : List Text} (areNames : ∀ s ∈ names, IsName s) :
    normalize (ofNames names) = ofNames names := by
  have parts : ∀ s ∈ names, IsPart s := fun s hs => (areNames s hs).isPart
  have relative := isAbsolute_joinSegments parts
  have joined : join (ofNames []) (joinSegments names) = ofNames names := by
    rw [join, relative]
    rfl
  rw [← joined, normalize_join_ofNames (by simp) relative, joined, List.nil_append]
  rcases eq_or_ne names [] with rfl | nonempty
  · rfl
  · rw [segments_joinSegments nonempty parts, reduce, foldl_enter_of_names areNames,
      List.append_nil, List.reverse_reverse]

theorem place_ofNames {names : List Text} (areNames : ∀ s ∈ names, IsName s) :
    place (ofNames names) = names := by
  have parts : ∀ s ∈ names, IsPart s := fun s hs => (areNames s hs).isPart
  have read : absolute [slash] (ofNames names) = ofNames names := normalize_ofNames areNames
  rw [place, read, ofNames, segments_cons_slash]
  rcases eq_or_ne names [] with rfl | nonempty
  · rfl
  · rw [segments_joinSegments nonempty parts, List.filter_cons_of_neg (by simp),
      List.filter_eq_self.2]
    intro s hs
    simpa using (parts s hs).1

theorem ofNames_of_ne_nil {names : List Text} (nonempty : names ≠ []) :
    ofNames names = names.flatMap (slash :: ·) := by
  obtain ⟨first, rest, rfl⟩ := List.exists_cons_of_ne_nil nonempty
  rw [ofNames, joinSegments_cons, List.flatMap_cons, List.cons_append]

/-- The last name stands behind all other names and a slash. -/
theorem ofNames_concat (before : List Text) (last : Text) :
    ofNames (before ++ [last]) = under (before.flatMap (slash :: ·)) last := by
  rw [ofNames_of_ne_nil (by simp), List.flatMap_append, List.flatMap_singleton, under]

theorem ofNames_concat_of_ne_nil {before : List Text} (nonempty : before ≠ []) (last : Text) :
    ofNames (before ++ [last]) = under (ofNames before) last := by
  rw [ofNames_concat, ofNames_of_ne_nil nonempty]

theorem front_of_not_mem {name : Text} (whole : slash ∉ name) : front name = [] := by
  rw [front, List.reverse_eq_nil_iff, List.dropWhile_eq_nil_iff]
  intro c hc
  exact decide_eq_true fun same => whole (same ▸ List.mem_reverse.1 hc)

/-- The directory of a canonical path is the path without its last name; the root
stands in itself. -/
theorem parent_ofNames {names : List Text} (areNames : ∀ s ∈ names, IsName s) :
    parent (ofNames names) = ofNames names.dropLast := by
  rcases List.eq_nil_or_concat' names with rfl | ⟨before, last, rfl⟩
  · decide
  have part : IsPart last := (areNames last (by simp)).isPart
  have alone : front last = [] := front_of_not_mem part.2
  rw [List.dropLast_concat]
  rcases eq_or_ne before [] with rfl | nonempty
  · have kept : front (under [] last) = [slash] := by rw [front_under, alone]; rfl
    rw [ofNames_concat, List.flatMap_nil]
    change (if (front (under [] last)).all fun c => c = slash then front (under [] last)
      else trimSlashes (front (under [] last))) = _
    rw [kept]
    decide
  · have parts : ∀ s ∈ before, IsPart s := fun s hs =>
      (areNames s (List.mem_append_left _ hs)).isPart
    have named : EndsWithName (ofNames before) :=
      (endsWithName_joinSegments nonempty parts).append [slash]
    have relative : isAbsolute last = false := by simpa using part.isAbsolute_append []
    rw [ofNames_concat_of_ne_nil nonempty, parent_under named relative,
      parent_of_relative relative, alone]
    rfl

/-! ## The way from a directory -/

/-- Between canonical paths there is a way, it ends with a name, and read from its
start it leads to its end. -/
theorem relative?_ofNames {start place : List Text} (startNames : ∀ s ∈ start, IsName s)
    (placeNames : ∀ s ∈ place, IsName s) :
    ∃ way, relative? (ofNames place) (ofNames start) = some way ∧ EndsWithName way ∧
      isAbsolute way = false ∧ reduce true (start ++ segments way) = place := by
  have leads := reduce_append_steps startNames placeNames
  have parts : ∀ s ∈ steps start place, IsPart s := fun s hs => isPart_of_mem_steps placeNames hs
  have nonempty : (ofNames place).isEmpty = false := rfl
  simp only [relative?, nonempty, place_ofNames startNames, place_ofNames placeNames,
    Bool.false_eq_true, if_false, Option.some_inj, exists_eq_left']
  rcases eq_or_ne (steps start place) [] with none | some
  · -- The start is the place itself.
    rw [none] at leads ⊢
    refine ⟨⟨[], dot, rfl, by decide⟩, rfl, ?_⟩
    rw [← leads]
    exact reduce_append_here true start []
  · rw [if_neg (by simpa using some), segments_joinSegments some parts]
    exact ⟨endsWithName_joinSegments some parts, isAbsolute_joinSegments parts, leads⟩

end ModuleAudit.Path
