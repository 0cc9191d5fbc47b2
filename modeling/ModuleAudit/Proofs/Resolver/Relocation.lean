import ModuleAudit.Proofs.Path.Under
import ModuleAudit.Resolver

/-!
# Resolution inside a directory

A project whose modules all stand under one directory can be resolved without
that directory: the importer, the specifier and the known paths are all read
relative to it. `innerResolve` does so, and `resolve_under` says that it is what
the resolver of the project finds, whatever directory the project stands in.

The directory itself is the one place where its own name could be seen. A
specifier may lead back to it, and its name may look like that of a source file;
then the candidates are spelled from that name, and none of them is a path under
the directory as long as extensions are suffixes of file names.
-/

namespace ModuleAudit

/-- Extensions that continue the name of a file: each begins with a dot, and no
code extension continues another one after a slash. -/
structure ConventionalExtensions (code data : List Text) : Prop where
  dotted : ∀ e ∈ code ++ data, e.head? = some Path.dot
  apart : ∀ e ∈ code, ∀ e' ∈ code, ¬ e ++ [Path.slash] <+: e'

instance (code data : List Text) : Decidable (ConventionalExtensions code data) :=
  decidable_of_iff
    ((∀ e ∈ code ++ data, e.head? = some Path.dot) ∧
      ∀ e ∈ code, ∀ e' ∈ code, ¬ e ++ [Path.slash] <+: e')
    ⟨fun h => ⟨h.1, h.2⟩, fun h => ⟨h.dotted, h.apart⟩⟩

theorem isAbsolute_of_isRelativeSpecifier {specifier : Text}
    (relative : isRelativeSpecifier specifier = true) : Path.isAbsolute specifier = false := by
  apply Bool.eq_false_iff.2
  intro absolute
  obtain ⟨rest, rfl⟩ := Path.isAbsolute_iff.1 absolute
  cases relative

namespace Resolver

/-- A resolver knows the modules of another one under a directory, by the same
conventions. -/
structure StandsIn (directory : Text) (inner r : Resolver) : Prop where
  paths : r.paths = inner.paths.map (Path.under directory)
  extensions : r.extensions = inner.extensions
  dataExtensions : r.dataExtensions = inner.dataExtensions

/-- Whether a specifier never leads above the directory that its importer is
relative to. -/
def staysInside (specifier importer : Text) : Bool :=
  Path.staysWithin 0 (Path.segments (Path.join (Path.parent importer) specifier))

/-- The path that a specifier names in a relative importer; it is empty for the
directory that the importer is relative to. -/
def innerTarget (specifier importer : Text) : Text :=
  Path.joinSegments
    (Path.reduce false (Path.segments (Path.join (Path.parent importer) specifier)))

/-- The relative paths a specifier may name. The directory itself is no file. -/
def innerCandidates (r : Resolver) (specifier importer : Text) : List Text :=
  let path := innerTarget specifier importer
  if Text.ends "/" specifier || path.isEmpty then r.indexProbes path
  else r.fileProbes path ++ r.indexProbes path

/-- The relative path of the module that a specifier names, if it is known. -/
def innerResolve (r : Resolver) (specifier importer : Text) : Option Text :=
  if isRelativeSpecifier specifier then
    (r.innerCandidates specifier importer).find? fun candidate => r.paths.contains candidate
  else none

variable {directory : Text} {inner r : Resolver}

theorem target_under (below : Path.BelowRoot directory) {specifier importer : Text}
    (relative : Path.isAbsolute importer = false) (named : isRelativeSpecifier specifier = true)
    (stays : staysInside specifier importer = true) :
    target specifier (Path.under directory importer) =
      Path.folder directory (innerTarget specifier importer) := by
  rw [target, Path.parent_under below.endsWithName relative,
    Path.join_folder below.endsWithName (isAbsolute_of_isRelativeSpecifier named)]
  exact below.normalize_under stays

/-! ## Candidates -/

theorem fileProbes_under (stands : StandsIn directory inner r) (dotted : [] ∉ inner.extensions)
    (path : Text) :
    r.fileProbes (Path.under directory path) =
      (inner.fileProbes path).map (Path.under directory) := by
  have longer (path e : Text) :
      Path.under directory path ++ e = Path.under directory (path ++ e) := by
    simp [Path.under]
  simp only [fileProbes, knownExtensions, Path.extension_under, stands.extensions,
    stands.dataExtensions]
  split
  · rename_i code
    have nonempty : Path.extension path ≠ [] := fun empty => dotted (empty ▸ code)
    simp [nonempty, longer, Function.comp_def]
  · split
    · rfl
    · simp [longer, Function.comp_def]

theorem indexProbes_folder (stands : StandsIn directory inner r)
    (named : Path.EndsWithName directory) (path : Text) :
    r.indexProbes (Path.folder directory path) =
      (inner.indexProbes path).map (Path.under directory) := by
  rw [indexProbes, indexProbes, List.map_map, knownExtensions, knownExtensions, stands.extensions,
    stands.dataExtensions]
  refine List.map_congr_left fun e _ => ?_
  exact Path.join_folder named rfl path

/-- No file that is spelled from the name of the directory is under it. -/
theorem ne_under_of_mem_fileProbes
    (conventional : ConventionalExtensions r.extensions r.dataExtensions) {candidate : Text}
    (probed : candidate ∈ r.fileProbes directory) (path : Text) :
    candidate ≠ Path.under directory path := by
  intro same
  simp only [fileProbes] at probed
  split at probed
  · rename_i code
    rcases List.mem_cons.1 probed with rfl | probed
    · exact Path.under_ne_self _ _ same.symm
    · obtain ⟨other, listed, rfl⟩ := List.mem_map.1 probed
      have nonempty : Path.extension directory ≠ [] := by
        intro empty
        have first := conventional.dotted _ (List.mem_append_left _ code)
        rw [empty] at first
        cases first
      -- The directory is its stem and its extension, so `other` would go on after a slash.
      have spelled : other = Path.extension directory ++ Path.slash :: path := by
        rw [if_neg (by simpa using nonempty), Path.under] at same
        conv at same => rhs; rw [← Path.stem_append_extension directory, List.append_assoc]
        exact List.append_cancel_left same
      refine conventional.apart _ code other (List.mem_filter.1 listed).1 ⟨path, ?_⟩
      rw [spelled, List.append_assoc, List.singleton_append]
  · split at probed
    · rw [List.mem_singleton.1 probed] at same
      exact Path.under_ne_self _ _ same.symm
    · rcases List.mem_cons.1 probed with rfl | probed
      · exact Path.under_ne_self _ _ same.symm
      · obtain ⟨e, known, rfl⟩ := List.mem_map.1 probed
        have first := conventional.dotted e known
        rw [List.append_cancel_left same] at first
        cases first

/-! ## The first known candidate -/

theorem contains_under (stands : StandsIn directory inner r) (path : Text) :
    r.paths.contains (Path.under directory path) = inner.paths.contains path := by
  rw [stands.paths, Bool.eq_iff_iff, List.contains_iff_mem, List.contains_iff_mem,
    List.mem_map_of_injective (Path.under_injective directory)]

theorem find?_map_under (stands : StandsIn directory inner r) (candidates : List Text) :
    ((candidates.map (Path.under directory)).find? fun candidate => r.paths.contains candidate) =
      (candidates.find? fun candidate => inner.paths.contains candidate).map
        (Path.under directory) := by
  rw [List.find?_map]
  congr 2
  funext path
  exact contains_under stands path

theorem find?_fileProbes_self (stands : StandsIn directory inner r)
    (conventional : ConventionalExtensions r.extensions r.dataExtensions) :
    ((r.fileProbes directory).find? fun candidate => r.paths.contains candidate) = none := by
  rw [List.find?_eq_none]
  intro candidate probed known
  rw [stands.paths, List.contains_iff_mem] at known
  obtain ⟨path, -, same⟩ := List.mem_map.1 known
  exact ne_under_of_mem_fileProbes conventional probed path same.symm

/-- What a resolver finds under a directory is what is found without it. -/
theorem resolve_under (below : Path.BelowRoot directory) (stands : StandsIn directory inner r)
    (conventional : ConventionalExtensions inner.extensions inner.dataExtensions)
    {specifier importer : Text} (relative : Path.isAbsolute importer = false)
    (stays : isRelativeSpecifier specifier = true → staysInside specifier importer = true) :
    r.resolve specifier (Path.under directory importer) =
      (inner.innerResolve specifier importer).map (Path.under directory) := by
  have dotted : [] ∉ inner.extensions := by
    intro listed
    cases conventional.dotted [] (List.mem_append_left _ listed)
  rw [resolve, innerResolve]
  split
  · rename_i named
    rw [← find?_map_under stands, candidates, innerCandidates,
      target_under below relative named (stays named)]
    generalize innerTarget specifier importer = path
    rw [indexProbes_folder stands below.endsWithName]
    by_cases directories : Text.ends "/" specifier = true
    · simp only [directories, Bool.true_or, if_true]
    · cases path with
      | nil =>
        have conventional : ConventionalExtensions r.extensions r.dataExtensions := by
          rw [stands.extensions, stands.dataExtensions]
          exact conventional
        have none := find?_fileProbes_self stands conventional
        simp only [directories, Bool.false_eq_true, if_false, List.isEmpty_nil, Bool.or_true,
          if_true, List.find?_append, Path.folder, none, Option.none_or]
      | cons c path =>
        simp only [directories, if_false, List.isEmpty_cons, Bool.or_false, Bool.false_eq_true,
          Path.folder]
        rw [fileProbes_under stands dotted, List.map_append]
  · rfl

/-- In another directory a specifier names the same module, moved there, or none in
both. -/
theorem resolve_moved {directory' : Text} {r' : Resolver} (below : Path.BelowRoot directory)
    (below' : Path.BelowRoot directory') (stands : StandsIn directory inner r)
    (stands' : StandsIn directory' inner r')
    (conventional : ConventionalExtensions inner.extensions inner.dataExtensions)
    {specifier importer : Text} (relative : Path.isAbsolute importer = false)
    (stays : isRelativeSpecifier specifier = true → staysInside specifier importer = true) :
    r'.resolve specifier (Path.moved directory directory' (Path.under directory importer)) =
      (r.resolve specifier (Path.under directory importer)).map
        (Path.moved directory directory') := by
  rw [Path.moved_under, resolve_under below stands conventional relative stays,
    resolve_under below' stands' conventional relative stays, Option.map_map]
  congr 1
  funext path
  exact (Path.moved_under directory directory' path).symm

end Resolver

end ModuleAudit
