import ModuleAudit.Proofs.Path.Extension
import ModuleAudit.Proofs.Table
import ModuleAudit.Resolver

/-!
# The last module under a spelling

The modules write their spellings one after another, and a later module takes over the
spellings that it shares with earlier ones. A spelling therefore leads to the last module
that has it.

The path of a module is absolute and its way from the root is not, so a path is shared
with the shortened path of another module only, and a way with a file name only: a module
is found under its path unless a later one has that path before its extension, and under
its way unless a later one has that way as its file name. Paths that differ in their
leading slashes have the same way.
-/

namespace ModuleAudit.Resolver

/-! ## Writing the spellings -/

/-- A spelling leads to the last module that has it. -/
theorem lookupHint_eq (r : Resolver) (key : Text) :
    r.lookupHint key = r.paths.reverse.find? fun path => key ∈ r.spellingsOf path := by
  rw [lookupHint, spellings, Table.ofList, Table.get?_insertMany_flatMap, Table.get?_empty,
    Option.or_none]
  congr 1
  funext path
  exact decide_eq_decide.2 Iff.rfl

/-- A module is found under a spelling of its own unless a later module has it too. -/
theorem lookupHint_eq_some_iff {r : Resolver} (once : r.paths.Nodup) {before after : List Text}
    {path key : Text} (split : r.paths = before ++ path :: after)
    (spelled : key ∈ r.spellingsOf path) :
    r.lookupHint key = some path ↔ ∀ later ∈ after, key ∉ r.spellingsOf later := by
  rw [split] at once
  have other : path ∉ after := (List.nodup_cons.1 (List.nodup_append.1 once).2.1).1
  rw [lookupHint_eq, split, List.reverse_append, List.reverse_cons, List.append_assoc,
    List.singleton_append, List.find?_append, List.find?_cons_of_pos (by simpa using spelled)]
  constructor
  · intro found later known shared
    obtain ⟨last, displaces⟩ : ∃ last, (after.reverse.find? fun path =>
        key ∈ r.spellingsOf path) = some last := by
      rw [← Option.isSome_iff_exists, List.find?_isSome]
      exact ⟨later, List.mem_reverse.2 known, by simpa using shared⟩
    rw [displaces, Option.some_or, Option.some_inj] at found
    exact other (found ▸ List.mem_reverse.1 (List.mem_of_find?_eq_some displaces))
  · intro alone
    have none : (after.reverse.find? fun path => key ∈ r.spellingsOf path) = none := by
      rw [List.find?_eq_none]
      intro later known
      simpa using alone later (List.mem_reverse.1 known)
    rw [none, Option.none_or]

/-! ## Which spellings two modules share -/

section Shared

variable {r : Resolver} {root : Text} (rooted : r.root = some root) (somewhere : root ≠ [])

include rooted somewhere

/-- The way from the root is relative, and it leads to the place of the path. -/
theorem fromRoot_leads {path : Text} (absolute : Path.isAbsolute path = true) :
    Path.isAbsolute (Path.fromRoot path r.root) = false ∧
      Path.reduce true (Path.place root ++ Path.segments (Path.fromRoot path r.root)) =
        Path.place path := by
  have nonempty : path ≠ [] := by
    rintro rfl
    cases absolute
  obtain ⟨way, found, relative, leads⟩ := Path.exists_way nonempty root
  have spelled : Path.fromRoot path r.root = way := by
    rw [rooted, Path.fromRoot, if_neg (by simpa using somewhere), found, Option.getD_some]
  rw [spelled]
  exact ⟨relative, leads⟩

theorem path_mem_spellingsOf_iff {path later : Text} (absolute : Path.isAbsolute path = true)
    (absolute' : Path.isAbsolute later = true) :
    path ∈ r.spellingsOf later ↔
      path = later ∨ Path.extension later ∈ r.extensions ∧ Path.stem later = path := by
  have way : path ≠ Path.fromRoot later r.root := by
    intro same
    have relative := (fromRoot_leads rooted somewhere absolute').1
    rw [← same, absolute] at relative
    cases relative
  have name : path ≠ Path.base later := by
    intro same
    exact Path.slash_not_mem_base later (same ▸ Path.slash_mem_of_isAbsolute absolute)
  by_cases code : Path.extension later ∈ r.extensions
  · simp [spellingsOf, code, way, name, eq_comm]
  · simp [spellingsOf, code, way, name]

theorem fromRoot_mem_spellingsOf_iff {path later : Text}
    (absolute : Path.isAbsolute path = true) (absolute' : Path.isAbsolute later = true) :
    Path.fromRoot path r.root ∈ r.spellingsOf later ↔
      Path.base later = Path.fromRoot path r.root ∨
        Path.fromRoot later r.root = Path.fromRoot path r.root := by
  have relative := (fromRoot_leads rooted somewhere absolute).1
  have apart {key : Text} (absolute : Path.isAbsolute key = true) :
      Path.fromRoot path r.root ≠ key := by
    intro same
    rw [same, absolute] at relative
    cases relative
  have shortened : Path.isAbsolute (Path.stem later) = true := by
    rcases eq_or_ne (Path.extension later) [] with none | extended
    · have whole := Path.stem_append_extension later
      rw [none, List.append_nil] at whole
      rw [whole]
      exact absolute'
    · obtain ⟨c, hc, -⟩ := Path.exists_ne_dot_stem extended
      exact Path.isAbsolute_of_start ⟨_, Path.stem_append_extension later⟩
        (List.ne_nil_of_mem hc) absolute'
  by_cases code : Path.extension later ∈ r.extensions
  · simp [spellingsOf, code, apart absolute', apart shortened, eq_comm, or_comm]
  · simp [spellingsOf, code, apart absolute', eq_comm, or_comm]

/-- Only paths that differ in their leading slashes have the same way. -/
theorem eq_of_fromRoot_eq {path later : Text} (normal : Path.Normal path)
    (normal' : Path.Normal later)
    (same : Path.fromRoot path r.root = Path.fromRoot later r.root) :
    path = later ∨ path = Path.slash :: later ∨ later = Path.slash :: path := by
  have leads := (fromRoot_leads rooted somewhere normal.absolute).2
  rw [same, (fromRoot_leads rooted somewhere normal'.absolute).2] at leads
  exact normal.eq_of_place_eq normal' leads.symm

end Shared

/-- A resolver of absolute paths has a root that is not empty. -/
theorem exists_root {paths : List Text} (nonempty : paths ≠ [])
    (absolute : ∀ path ∈ paths, Path.isAbsolute path = true) (root : Option Text)
    (extensions dataExtensions : List Text) :
    ∃ found, (ofPaths paths root extensions dataExtensions).root = some found ∧ found ≠ [] := by
  change ∃ found, (root.filter fun r => !r.isEmpty).or (Path.commonRoot paths) = some found ∧ _
  cases given : root.filter fun r => !r.isEmpty with
  | some found =>
    refine ⟨found, Option.some_or, ?_⟩
    simpa using (Option.filter_eq_some_iff.1 given).2
  | none =>
    obtain ⟨first, rest, rfl⟩ := List.exists_cons_of_ne_nil nonempty
    have parents : ∀ path ∈ first :: rest, Path.isAbsolute (Path.parent path) = true :=
      fun path known => Path.isAbsolute_parent (absolute path known)
    have alike : ((rest.map Path.parent).all fun path =>
        Path.isAbsolute path == Path.isAbsolute (Path.parent first)) = true := by
      rw [Path.all_isAbsolute_iff, ← List.map_cons]
      intro a ha b hb
      obtain ⟨path, known, rfl⟩ := List.mem_map.1 ha
      obtain ⟨path', known', rfl⟩ := List.mem_map.1 hb
      rw [parents path known, parents path' known']
    rw [Option.none_or, Path.commonRoot, List.map_cons]
    simp only [Path.common?, alike, if_true, Option.some_inj, exists_eq_left']
    simp [parents first List.mem_cons_self]

/-- Every spelling leads to the last module that has it. So a module is found under its
path exactly when no later module is that path with a code extension, and under its way
from the root exactly when no later module has that way as its file name or for its own
way; ways agree only for paths that differ in their leading slashes. -/
theorem lookupHint_exact_unless_later {paths : List Text} (once : paths.Nodup)
    (normal : ∀ path ∈ paths, Path.isAbsolute path = true ∧ Path.normalize path = path)
    (root : Option Text) (extensions dataExtensions : List Text) :
    let r := ofPaths paths root extensions dataExtensions
    (∀ key, r.lookupHint key = paths.reverse.find? fun path => key ∈ r.spellingsOf path) ∧
      ∀ before path after, paths = before ++ path :: after →
        (r.lookupHint path = some path ↔
          ∀ later ∈ after, ¬ (Path.extension later ∈ extensions ∧ Path.stem later = path)) ∧
        (r.lookupHint (Path.fromRoot path r.root) = some path ↔
          ∀ later ∈ after, Path.base later ≠ Path.fromRoot path r.root ∧
            Path.fromRoot later r.root ≠ Path.fromRoot path r.root) ∧
        ∀ later ∈ paths, Path.fromRoot later r.root = Path.fromRoot path r.root →
          later = path ∨ later = Path.slash :: path ∨ path = Path.slash :: later := by
  intro r
  refine ⟨lookupHint_eq r, ?_⟩
  rintro before path after split
  have normal : ∀ path ∈ paths, Path.Normal path := fun path known =>
    ⟨(normal path known).1, (normal path known).2⟩
  have listed : path ∈ paths := by simp [split]
  have behind : ∀ later ∈ after, later ∈ paths := fun later known => by simp [split, known]
  have fresh : ∀ later ∈ after, path ≠ later := by
    rintro later known rfl
    rw [split] at once
    exact (List.nodup_cons.1 (List.nodup_append.1 once).2.1).1 known
  obtain ⟨found, rooted, somewhere⟩ := exists_root (List.ne_nil_of_mem listed)
    (fun path known => (normal path known).absolute) root extensions dataExtensions
  have absolute := (normal path listed).absolute
  refine ⟨?_, ?_, ?_⟩
  · rw [lookupHint_eq_some_iff (r := r) once split (by simp [spellingsOf])]
    refine forall₂_congr fun later known => ?_
    rw [path_mem_spellingsOf_iff rooted somewhere absolute
      (normal later (behind later known)).absolute, or_iff_right (fresh later known)]
    rfl
  · rw [lookupHint_eq_some_iff (r := r) once split (by simp [spellingsOf])]
    refine forall₂_congr fun later known => ?_
    rw [fromRoot_mem_spellingsOf_iff rooted somewhere absolute
      (normal later (behind later known)).absolute, not_or]
  · intro later known same
    exact eq_of_fromRoot_eq rooted somewhere (normal later known) (normal path listed) same

/-- Modules with one file name, listed so that none is displaced. -/
theorem lookupHint_exact_unless_later_ascending :
    let r := ofPaths ["/p/lib/util.js", "/p/util.js", "/p/util"] (some "/p") [".js"] []
    r.paths.Nodup ∧
      (∀ path ∈ r.paths, Path.isAbsolute path = true ∧ Path.normalize path = path) ∧
      r.lookupHint "/p/util" = some "/p/util" ∧
      Path.fromRoot "/p/util.js" r.root = "util.js" ∧
      r.lookupHint "util.js" = some "/p/util.js" := by
  intro r
  have once : r.paths.Nodup := by decide
  have normal : ∀ path ∈ r.paths, Path.isAbsolute path = true ∧ Path.normalize path = path := by
    decide
  obtain ⟨-, exact⟩ := lookupHint_exact_unless_later once normal (some "/p") [".js"] []
  have last := exact ["/p/lib/util.js", "/p/util.js"] "/p/util" [] rfl
  have middle := exact ["/p/lib/util.js"] "/p/util.js" ["/p/util"] rfl
  have way : Path.fromRoot "/p/util.js" r.root = "util.js" := by decide
  refine ⟨once, normal, last.1.2 (by simp), way, ?_⟩
  rw [← way]
  exact middle.2.1.2 (by decide)

/-- In another order the path of one of them leads to its sibling with an extension, and
the way to this one leads to a module of the same file name. -/
theorem lookupHint_displaced :
    let r := ofPaths ["/p/util", "/p/util.js", "/p/lib/util.js"] (some "/p") [".js"] []
    r.paths.Nodup ∧ (∀ path ∈ r.paths, Path.Canonical path) ∧
      r.lookupHint "/p/util" = some "/p/util.js" ∧
      Path.fromRoot "/p/util.js" r.root = "util.js" ∧
      r.lookupHint "util.js" = some "/p/lib/util.js" := by
  decide

end ModuleAudit.Resolver
