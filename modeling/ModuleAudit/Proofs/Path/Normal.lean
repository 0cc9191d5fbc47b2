import ModuleAudit.Proofs.Path.Canonical

/-!
# Absolute paths in normal form

An absolute path in normal form is a canonical path, or one with a second slash in
front: a normal form keeps two leading slashes. Either is determined by its names, so
a normal form is its own normal form.

What stands before the last name does not depend on that name. A normal path
therefore stays normal when its last name is continued, exchanged or followed by
another, as long as the result is a name again.
-/

namespace ModuleAudit.Path

/-- An absolute path that is its own normal form. -/
structure Normal (path : Text) : Prop where
  absolute : isAbsolute path = true
  normal : normalize path = path

instance (path : Text) : Decidable (Normal path) :=
  decidable_of_iff (isAbsolute path = true ∧ normalize path = path)
    ⟨fun h => ⟨h.1, h.2⟩, fun h => ⟨h.absolute, h.normal⟩⟩

/-- What a normal path may have in front of a canonical one. -/
def IsLead (lead : Text) : Prop := lead = [] ∨ lead = [slash]

/-! ## Absolute paths -/

theorem isAbsolute_of_start {front path : Text} (start : front <+: path) (nonempty : front ≠ [])
    (absolute : isAbsolute path = true) : isAbsolute front = true := by
  obtain ⟨back, rfl⟩ := start
  obtain ⟨c, rest, rfl⟩ := List.exists_cons_of_ne_nil nonempty
  exact absolute

theorem isAbsolute_join {directory : Text} (absolute : isAbsolute directory = true) (path : Text) :
    isAbsolute (join directory path) = true := by
  obtain ⟨rest, rfl⟩ := isAbsolute_iff.1 absolute
  unfold join
  split
  · assumption
  · split <;> rfl

theorem base_of_not_mem {name : Text} (whole : slash ∉ name) : base name = name := by
  have all : name.reverse.takeWhile (fun c => c ≠ slash) = name.reverse :=
    List.takeWhile_eq_self_iff.2 fun c hc =>
      decide_eq_true fun same => whole (same ▸ List.mem_reverse.1 hc)
  rw [base, all, List.reverse_reverse]

theorem slash_not_mem_base (path : Text) : slash ∉ base path := by
  intro mem
  have kept := List.mem_takeWhile_imp (List.mem_reverse.1 mem)
  simp at kept

/-- A path with a slash is its last component read under what stands before it. -/
theorem exists_eq_under_base {path : Text} (parted : slash ∈ path) :
    ∃ directory, path = under directory (base path) := by
  obtain ⟨last, directory, reversed, whole⟩ :=
    List.eq_append_cons_of_mem (List.mem_reverse.2 parted)
  have spelled : path = under directory.reverse last.reverse := by
    rw [← List.reverse_reverse path, reversed]
    simp [under]
  have named : base path = last.reverse := by
    rw [spelled, base_under, base_of_not_mem (by simpa using whole)]
  rw [named]
  exact ⟨directory.reverse, spelled⟩

theorem slash_mem_of_isAbsolute {path : Text} (absolute : isAbsolute path = true) :
    slash ∈ path := by
  obtain ⟨rest, rfl⟩ := isAbsolute_iff.1 absolute
  exact List.mem_cons_self

theorem isAbsolute_parent {path : Text} (absolute : isAbsolute path = true) :
    isAbsolute (parent path) = true := by
  have start : front path <+: path :=
    List.reverse_suffix.1 (by simpa [front] using List.dropWhile_suffix _)
  have nonempty : front path ≠ [] := by
    obtain ⟨directory, spelled⟩ := exists_eq_under_base (slash_mem_of_isAbsolute absolute)
    rw [spelled, front_under, under]
    simp
  have front_absolute := isAbsolute_of_start start nonempty absolute
  change isAbsolute (if (front path).all fun c => c = slash then front path
    else trimSlashes (front path)) = true
  split
  · exact front_absolute
  · rename_i named
    refine isAbsolute_of_start ?_ ?_ front_absolute
    · exact List.reverse_suffix.1 (by simpa [trimSlashes] using List.dropWhile_suffix _)
    · intro none
      rw [trimSlashes, List.reverse_eq_nil_iff, List.dropWhile_eq_nil_iff] at none
      exact named (List.all_eq_true.2 fun c hc => none c (List.mem_reverse.2 hc))

/-! ## Paths that are not empty -/

theorem join_ne_nil (directory : Text) {path : Text} (nonempty : path ≠ []) :
    join directory path ≠ [] := by
  unfold join
  split
  · exact nonempty
  · split
    · exact List.append_ne_nil_of_right_ne_nil _ nonempty
    · exact List.append_ne_nil_of_right_ne_nil _ (List.cons_ne_nil _ _)

theorem normalize_ne_nil (path : Text) : normalize path ≠ [] := by
  unfold normalize
  dsimp only
  split
  · decide
  · rename_i nonempty
    simpa using nonempty

/-! ## Normal forms are normal -/

theorem root_eq_lead {path : Text} (absolute : isAbsolute path = true) :
    ∃ lead, IsLead lead ∧ root path = lead ++ [slash] := by
  have rooted := root_ne_nil absolute
  unfold root at rooted ⊢
  split
  · rename_i none
    rw [none] at rooted
    exact absurd rfl rooted
  · exact ⟨[slash], .inr rfl, rfl⟩
  · exact ⟨[], .inl rfl, rfl⟩

theorem normal_ofNames {lead : Text} (leads : IsLead lead) {names : List Text}
    (areNames : ∀ s ∈ names, IsName s) : Normal (lead ++ ofNames names) := by
  have single := normalize_ofNames areNames
  rcases leads with rfl | rfl
  · exact ⟨rfl, single⟩
  · refine ⟨rfl, ?_⟩
    have relative : isAbsolute (joinSegments names) = false :=
      isAbsolute_joinSegments fun s hs => (areNames s hs).isPart
    have second : root (slash :: ofNames names) = slash :: root (ofNames names) := by
      rw [ofNames, root_cons_slash relative]
      cases spelled : joinSegments names with
      | nil => rfl
      | cons c rest =>
        rw [spelled] at relative
        have other : c ≠ slash := by simpa [isAbsolute] using relative
        simp [root, other]
    rw [normalize_of_absolute rfl] at single
    rw [List.singleton_append, normalize_of_absolute rfl, second, segments_cons_slash,
      List.cons_append]
    exact congrArg (slash :: ·) single

theorem exists_names_normalize {path : Text} (absolute : isAbsolute path = true) :
    ∃ lead names, IsLead lead ∧ (∀ s ∈ names, IsName s) ∧
      normalize path = lead ++ ofNames names := by
  obtain ⟨lead, leads, rooted⟩ := root_eq_lead absolute
  refine ⟨lead, reduce true (segments path), leads,
    names_reduce_of_absolute fun s hs => slash_not_mem_of_mem_segments hs, ?_⟩
  rw [normalize_of_absolute absolute, rooted, List.append_assoc]
  rfl

/-- The normal form of an absolute path is normal. -/
theorem normal_normalize {path : Text} (absolute : isAbsolute path = true) :
    Normal (normalize path) := by
  obtain ⟨lead, names, leads, areNames, spelled⟩ := exists_names_normalize absolute
  rw [spelled]
  exact normal_ofNames leads areNames

theorem Normal.exists_names {path : Text} (normal : Normal path) :
    ∃ lead names, IsLead lead ∧ (∀ s ∈ names, IsName s) ∧ path = lead ++ ofNames names := by
  obtain ⟨lead, names, leads, areNames, spelled⟩ := exists_names_normalize normal.absolute
  exact ⟨lead, names, leads, areNames, normal.normal.symm.trans spelled⟩

theorem canonical_ofNames {names : List Text} (areNames : ∀ s ∈ names, IsName s) :
    Canonical (ofNames names) := by
  refine ⟨rfl, normalize_ofNames areNames, fun doubled => ?_⟩
  have relative := isAbsolute_joinSegments fun s hs => (areNames s hs).isPart
  have second : [slash] <+: joinSegments names := (List.cons_prefix_cons.1 doubled).2
  obtain ⟨rest, spelled⟩ := second
  rw [← spelled] at relative
  cases relative

/-! ## The last name -/

theorem ofNames_concat_append (before : List Text) (last more : Text) :
    ofNames (before ++ [last ++ more]) = ofNames (before ++ [last]) ++ more := by
  rw [ofNames_concat, ofNames_concat, under, under, List.append_assoc, List.cons_append]

/-- A text with something other than dots in it, and no slash, is a name. -/
theorem isName_of_ne_dot {text : Text} (named : ∃ c ∈ text, c ≠ dot) (whole : slash ∉ text) :
    IsName text := by
  obtain ⟨c, hc, other⟩ := named
  have dots {text : Text} (hc : c ∈ text) : ¬ ∀ d ∈ text, d = dot := fun all => other (all c hc)
  refine ⟨?_, ?_, ?_, whole⟩
  · rintro rfl
    exact List.not_mem_nil hc
  · rintro rfl
    exact dots hc (by decide)
  · rintro rfl
    exact dots hc (by decide)

/-- Below a name that is no longer the last one, every name leads to a normal path. -/
theorem Normal.join {path : Text} (normal : Normal path) {name : Text} (isName : IsName name) :
    Normal (join path name) := by
  obtain ⟨lead, names, leads, areNames, rfl⟩ := normal.exists_names
  have relative : isAbsolute name = false := by simpa using isName.isPart.isAbsolute_append []
  have spelled : Path.join (lead ++ ofNames names) name = lead ++ ofNames (names ++ [name]) := by
    rcases eq_or_ne names [] with rfl | nonempty
    · simp [Path.join, relative, ofNames, joinSegments]
    · have parts : ∀ s ∈ names, IsPart s := fun s hs => (areNames s hs).isPart
      obtain ⟨front, last, ends, other⟩ := endsWithName_joinSegments nonempty parts
      rw [ofNames_concat_of_ne_nil nonempty, under]
      simp [Path.join, relative, ofNames, ends, other, List.getLast?_cons]
  rw [spelled]
  refine normal_ofNames leads fun s hs => ?_
  rcases List.mem_append.1 hs with listed | added
  · exact areNames s listed
  · exact List.mem_singleton.1 added ▸ isName

/-! ## Places -/

theorem place_ofNames_lead {lead : Text} (leads : IsLead lead) {names : List Text}
    (areNames : ∀ s ∈ names, IsName s) : place (lead ++ ofNames names) = names := by
  have single := place_ofNames areNames
  have read : absolute [slash] (ofNames names) = ofNames names := normalize_ofNames areNames
  rcases leads with rfl | rfl
  · exact single
  · have read' : absolute [slash] (slash :: ofNames names) = slash :: ofNames names :=
      (normal_ofNames (.inr rfl) areNames).normal
    rw [place, read] at single
    rw [List.singleton_append, place, read', segments_cons_slash,
      List.filter_cons_of_neg (by simp), single]

/-- Every place is reached from the root through names. -/
theorem names_place (path : Text) : ∀ s ∈ place path, IsName s := by
  obtain ⟨lead, names, leads, areNames, spelled⟩ :=
    exists_names_normalize (isAbsolute_join (rfl : isAbsolute [slash] = true) path)
  have normal := normal_ofNames leads areNames
  have read : absolute [slash] (lead ++ ofNames names) = absolute [slash] path := by
    rw [absolute, join, if_pos normal.absolute, normal.normal]
    exact spelled.symm
  have placed : place path = names := by
    rw [← place_ofNames_lead leads areNames, place, place, read]
  rw [placed]
  exact areNames

/-- There is a way from any directory to any path but the empty one. It is relative, and
it leads from the place of the directory to the place of the path. -/
theorem exists_way {path : Text} (nonempty : path ≠ []) (start : Text) :
    ∃ way, relative? path start = some way ∧ isAbsolute way = false ∧
      reduce true (place start ++ segments way) = place path := by
  obtain ⟨way, found, -, relative, leads⟩ :=
    relative?_ofNames (names_place start) (names_place path)
  refine ⟨way, ?_, relative, leads⟩
  rw [← found, relative?, relative?, place_ofNames (names_place start),
    place_ofNames (names_place path), if_neg (by simpa using nonempty)]
  rfl

/-- Normal paths with the same place differ in their leading slashes only. -/
theorem Normal.eq_of_place_eq {path other : Text} (normal : Normal path) (normal' : Normal other)
    (same : place path = place other) :
    path = other ∨ path = slash :: other ∨ other = slash :: path := by
  obtain ⟨lead, names, leads, areNames, rfl⟩ := normal.exists_names
  obtain ⟨lead', names', leads', areNames', rfl⟩ := normal'.exists_names
  rw [place_ofNames_lead leads areNames, place_ofNames_lead leads' areNames'] at same
  subst same
  rcases leads with rfl | rfl <;> rcases leads' with rfl | rfl
  · exact .inl rfl
  · exact .inr (.inr rfl)
  · exact .inr (.inl rfl)
  · exact .inl rfl

end ModuleAudit.Path
