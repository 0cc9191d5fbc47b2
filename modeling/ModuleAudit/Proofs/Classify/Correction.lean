import ModuleAudit.Proofs.Classify.Suggestion
import ModuleAudit.Proofs.Path.Canonical
import ModuleAudit.Proofs.Resolver.Relocation
import ModuleAudit.Proofs.Text.EditDistance
import ModuleAudit.Proofs.Traversal

/-!
# Corrected spellings

The signals that suggest something each begin their sentence in another way, so a
correction among the suggestions is one that the typo signal has made.

For an import without a target the correction is a specifier of the only module
with a similar file name. The way from the importer's directory to that module is
a relative specifier, and the path it names is the first candidate of its
resolution, so the corrected import leads to that module and to no other.
-/

namespace ModuleAudit

/-! ## Suggested spellings -/

namespace ImportClassifier

variable {c : ImportClassifier}

/-- Only the typo signal suggests another spelling. -/
theorem suggests_didYouMean_iff {signal : ImportSignal} {s : ImportSubject} {spelling : Text} :
    Suggests c s signal (didYouMean spelling) ↔
      signal = .possibleTypo ∧ c.likelySpelling s = some spelling := by
  have apart {text : Text} (other : text.head? ≠ some (CodePoint.ofChar 'D')) :
      didYouMean spelling ≠ text := fun same => other (same ▸ rfl)
  constructor
  · intro suggests
    generalize sentence : didYouMean spelling = text at suggests
    cases suggests with
    | expected test => exact absurd sentence (apart (by decide))
    | spelling likely => exact ⟨rfl, didYouMean_injective sentence ▸ likely⟩
    | sources other built =>
      refine absurd sentence (apart ?_)
      show some (CodePoint.ofChar 'I') ≠ some (CodePoint.ofChar 'D')
      decide
    | extension extensions unnamed bare =>
      refine absurd sentence (apart ?_)
      show some (CodePoint.ofChar 'T') ≠ some (CodePoint.ofChar 'D')
      decide
  · rintro ⟨rfl, likely⟩
    exact .spelling likely

theorem didYouMean_mem_suggestions_iff {s : ImportSubject} {spelling : Text} :
    didYouMean spelling ∈ (Evaluation.ofSignals c.signals s).suggestions ↔
      c.likelySpelling s = some spelling := by
  simp only [mem_suggestions_iff, suggests_didYouMean_iff, exists_eq_left]

/-- The advice on an import suggests another spelling only where a signal does. -/
theorem mem_suggestions_of_advice {s : ImportSubject} {spelling : Text}
    (advised : advice (Evaluation.ofSignals c.signals s) s = didYouMean spelling) :
    didYouMean spelling ∈ (Evaluation.ofSignals c.signals s).suggestions := by
  have apart {text : Text} (other : text.head? ≠ some (CodePoint.ofChar 'D')) :
      text ≠ didYouMean spelling := fun same => other (same ▸ rfl)
  unfold advice at advised
  split at advised
  · refine absurd advised (apart ?_)
    cases expected : firstMatching (Evaluation.ofSignals c.signals s).reasons expectedReasons with
    | none => decide
    | some text =>
      obtain ⟨pair, found, rfl⟩ := Option.map_eq_some_iff.1 expected
      have heads : ∀ pair ∈ expectedReasons, pair.2.head? ≠ some (CodePoint.ofChar 'D') := by decide
      exact heads pair (List.mem_of_find?_eq_some found)
  · split at advised
    · rename_i correction rest corrections
      obtain ⟨signal, -, suggests⟩ := mem_corrections_iff.1 (corrections ▸ List.mem_cons_self)
      rw [← advised]
      exact mem_suggestions_iff.2 ⟨signal, suggests⟩
    · split at advised
      · refine absurd advised (apart ?_)
        show some (CodePoint.ofChar 'R') ≠ some (CodePoint.ofChar 'D')
        decide
      · refine absurd advised (apart ?_)
        decide

/-- A verdict that suggests another spelling has it from the typo signal. -/
theorem likelySpelling_of_classify {s : ImportSubject} {v : Verdict} (judged : c.classify s = .ok v)
    {spelling : Text}
    (carried : didYouMean spelling ∈ v.suggestions ∨ v.suggestion = didYouMean spelling) :
    c.likelySpelling s = some spelling := by
  have follows := follows_of_classify judged
  rw [← didYouMean_mem_suggestions_iff]
  rcases carried with listed | advised
  · exact follows.suggestions ▸ listed
  · exact mem_suggestions_of_advice (follows.suggestion.symm.trans advised)

theorem only?_eq_some_iff {α : Type} {l : List α} {a : α} : only? l = some a ↔ l = [a] := by
  constructor
  · intro only
    match l, only with
    | [b], only => rw [Option.some.inj only]
  · rintro rfl
    rfl

end ImportClassifier

/-! ## Specifiers of modules -/

namespace Resolver

variable {r : Resolver}

/-- The path that a specifier names is the first that is looked for, unless the
specifier asks for a directory. -/
theorem resolve_of_target_mem {specifier importer : Text}
    (relative : isRelativeSpecifier specifier = true) (named : Path.EndsWithName specifier)
    (known : target specifier importer ∈ r.paths) :
    r.resolve specifier importer = some (target specifier importer) := by
  have first (path : Text) : ∃ rest, r.fileProbes path = path :: rest := by
    unfold fileProbes
    dsimp only
    split
    · exact ⟨_, rfl⟩
    · split <;> exact ⟨_, rfl⟩
  obtain ⟨rest, probes⟩ := first (target specifier importer)
  rw [resolve, if_pos relative, candidates, named.ends_slash, probes]
  exact List.find?_cons_of_pos (List.contains_iff_mem.2 known)

end Resolver

namespace ImportClassifier

/-- The specifier of a module is relative, asks for a file, and names that module. -/
theorem target_specifierFor {path importer : Text} (canonical : Path.Canonical path)
    (importerCanonical : Path.Canonical importer) :
    isRelativeSpecifier (specifierFor path importer) = true ∧
      Path.EndsWithName (specifierFor path importer) ∧
      Resolver.target (specifierFor path importer) importer = path := by
  obtain ⟨names, areNames, rfl⟩ := canonical.exists_names
  obtain ⟨around, aroundNames, rfl⟩ := importerCanonical.exists_names
  have parentNames : ∀ s ∈ around.dropLast, Path.IsName s := fun s hs =>
    aroundNames s ((List.dropLast_sublist _).subset hs)
  obtain ⟨way, found, named, relative, leads⟩ := Path.relative?_ofNames parentNames areNames
  rw [Resolver.target, Path.parent_ofNames aroundNames]
  simp only [specifierFor, Path.parent_ofNames aroundNames, found, Option.getD_some]
  split
  · rename_i climbs
    refine ⟨by rw [isRelativeSpecifier, climbs, Bool.or_true], named, ?_⟩
    rw [Path.normalize_join_ofNames parentNames relative, leads]
  · have dotted : Path.segments ("./" ++ way) = Path.here :: Path.segments way :=
      Path.segments_append_slash Path.here way
    refine ⟨rfl, named.append _, ?_⟩
    rw [Path.normalize_join_ofNames parentNames rfl, dotted, Path.reduce_append_here, leads]

/-- Whether a module other than the importer has a file name that is at most two
edits away from the one that the specifier asks for, extensions apart. -/
def Resembles (r : Resolver) (f : UnresolvedImport) (path : Text) : Prop :=
  path ∈ r.paths ∧ path ≠ f.importer ∧
    ∃ n ≤ 2, Text.Edits n (plainName (Path.base path))
      (plainName (Path.base (Path.trimSlashes f.specifier)))

section

variable {r : Resolver} {c : ImportClassifier} {f : UnresolvedImport}

theorem mem_similarModules_iff (resolver : c.resolver = some r) {path : Text} :
    path ∈ c.similarModules f.subject ↔
      wantedName f.subject ∉ [[], Path.here, Path.up] ∧ Resembles r f path := by
  rw [similarModules, resolver]
  dsimp only
  split
  · rename_i nameless
    simp only [List.not_mem_nil, false_iff, not_and]
    exact fun named => absurd (List.contains_iff_mem.1 nameless) named
  · rename_i named
    rw [List.contains_iff_mem] at named
    rw [List.mem_filter, Bool.and_eq_true, decide_eq_true_eq, decide_eq_true_eq,
      Text.distance_le_iff]
    exact ⟨fun h => ⟨named, h⟩, fun h => h.2⟩

/-- A module is the only similar one exactly when no other resembles the import. -/
theorem similarModules_eq_singleton_iff (resolver : c.resolver = some r) (once : r.paths.Nodup)
    {path : Text} :
    c.similarModules f.subject = [path] ↔
      wantedName f.subject ∉ [[], Path.here, Path.up] ∧
        ∀ other, Resembles r f other ↔ other = path := by
  have nodup : (c.similarModules f.subject).Nodup := by
    rw [similarModules, resolver]
    dsimp only
    split
    · exact List.nodup_nil
    · exact once.filter _
  rw [← List.perm_singleton, List.perm_ext_iff_of_nodup nodup (by simp)]
  simp only [mem_similarModules_iff resolver, List.mem_singleton]
  constructor
  · intro same
    have named := ((same path).2 rfl).1
    exact ⟨named, fun other => ⟨fun h => (same other).1 ⟨named, h⟩, fun h => ((same other).2 h).2⟩⟩
  · rintro ⟨named, same⟩ other
    exact ⟨fun h => (same other).1 h.2, fun h => ⟨named, (same other).2 h⟩⟩

end

/-- An import that leads nowhere is corrected exactly when it asks for a file name and
one module resembles it, and the corrected specifier is a relative one that leads to
this module. -/
theorem correction_resolves {r : Resolver} (once : r.paths.Nodup)
    (canonical : ∀ path ∈ r.paths, Path.Canonical path) {f : UnresolvedImport}
    (importer : Path.Canonical f.importer) (nodes : NodeMap) (rules : Rules)
    (weights : Table Text Int) (extensions : List Text) :
    let c := make (some r) nodes rules weights extensions
    let suggestions := (Evaluation.ofSignals c.signals f.subject).suggestions
    ((∃ spelling, didYouMean spelling ∈ suggestions) ↔
        wantedName f.subject ∉ [[], Path.here, Path.up] ∧ ∃! path, Resembles r f path) ∧
      ∀ spelling, didYouMean spelling ∈ suggestions →
        isRelativeSpecifier spelling = true ∧
          ∃ path, r.resolve spelling f.importer = some path ∧
            ∀ other, Resembles r f other ↔ other = path := by
  intro c suggestions
  have corrects (spelling : Text) : didYouMean spelling ∈ suggestions ↔
      ∃ path, c.similarModules f.subject = [path] ∧ specifierFor path f.importer = spelling := by
    rw [didYouMean_mem_suggestions_iff]
    simp only [likelySpelling, UnresolvedImport.subject, given, Option.filter_none,
      Option.map_eq_some_iff, only?_eq_some_iff]
  refine ⟨⟨?_, ?_⟩, ?_⟩
  · rintro ⟨spelling, corrected⟩
    obtain ⟨path, only, -⟩ := (corrects spelling).1 corrected
    obtain ⟨named, same⟩ := (similarModules_eq_singleton_iff rfl once).1 only
    exact ⟨named, path, (same path).2 rfl, fun other => (same other).1⟩
  · rintro ⟨named, path, resembles, unique⟩
    have same (other : Text) : Resembles r f other ↔ other = path :=
      ⟨unique other, fun equal => equal ▸ resembles⟩
    have only := (similarModules_eq_singleton_iff (c := c) rfl once).2 ⟨named, same⟩
    exact ⟨_, (corrects _).2 ⟨path, only, rfl⟩⟩
  · intro spelling corrected
    obtain ⟨path, only, rfl⟩ := (corrects spelling).1 corrected
    obtain ⟨-, same⟩ := (similarModules_eq_singleton_iff rfl once).1 only
    have known : path ∈ r.paths := ((same path).2 rfl).1
    obtain ⟨relative, named, leads⟩ := target_specifierFor (canonical path known) importer
    refine ⟨relative, path, ?_, same⟩
    have resolved : r.resolve _ f.importer = _ :=
      Resolver.resolve_of_target_mem relative named (leads.symm ▸ known)
    rw [resolved, leads]

/-- A module with the path of the importer's own directory is meant by a specifier
that names this directory. -/
theorem correction_resolves_own_directory :
    let r := Resolver.ofPaths ["/p/src", "/p/src/main.js"] none [".js"] []
    let f : UnresolvedImport := ⟨"/p/src/main.js", "./srd", none⟩
    let c := make (some r) .empty {} .empty [".js"]
    r.resolve f.specifier f.importer = none ∧
      r.paths.Nodup ∧ (∀ path ∈ r.paths, Path.Canonical path) ∧ Path.Canonical f.importer ∧
      didYouMean "./." ∈ (Evaluation.ofSignals c.signals f.subject).suggestions ∧
      (∃! path, Resembles r f path) ∧
      r.resolve "./." f.importer = some "/p/src" ∧ Resembles r f "/p/src" := by
  intro r f c
  have once : r.paths.Nodup := by decide
  have canonical : ∀ path ∈ r.paths, Path.Canonical path := by decide
  have importer : Path.Canonical f.importer := by decide
  have corrected : didYouMean "./." ∈ (Evaluation.ofSignals c.signals f.subject).suggestions := by
    decide +kernel
  have leads : r.resolve "./." f.importer = some "/p/src" := by decide
  obtain ⟨exactly, resolves⟩ := correction_resolves once canonical importer .empty {} .empty [".js"]
  obtain ⟨-, path, resolved, same⟩ := resolves "./." corrected
  have found : Text.ofString "/p/src" = path := Option.some.inj (leads.symm.trans resolved)
  exact ⟨by decide, once, canonical, importer, corrected, (exactly.1 ⟨_, corrected⟩).2, leads,
    (same _).2 found⟩

end ImportClassifier

end ModuleAudit
