import ModuleAudit.Proofs.Classify.Suggestion
import ModuleAudit.Proofs.Path.Extension
import ModuleAudit.Proofs.Resolver.Relocation

/-!
# What the missing extension would find

An import without a target whose specifier has no extension is told to try one. The
longer specifier names the longer path, and all files that may be meant by it were
candidates of the shorter specifier already: its own path and its siblings under the other
code extensions. None of them is known, so only a directory of that name can help, by one
of its index files.
-/

namespace ModuleAudit

namespace Resolver

variable {r : Resolver} {specifier importer e : Text}

theorem slash_mem_of_isRelativeSpecifier (relative : isRelativeSpecifier specifier = true) :
    Path.slash ∈ specifier := by
  have within {start : Text} (begins : Text.begins start specifier = true)
      (parted : Path.slash ∈ start) : Path.slash ∈ specifier :=
    (Text.begins_iff.1 begins).subset parted
  rcases Bool.or_eq_true_iff.1 relative with begins | begins
  · exact within begins (by decide)
  · exact within begins (by decide)

theorem isRelativeSpecifier_append (relative : isRelativeSpecifier specifier = true)
    (more : Text) : isRelativeSpecifier (specifier ++ more) = true := by
  have longer {start : Text} (begins : Text.begins start specifier = true) :
      Text.begins start (specifier ++ more) = true :=
    Text.begins_iff.2 ((Text.begins_iff.1 begins).trans (List.prefix_append _ _))
  rw [isRelativeSpecifier, Bool.or_eq_true_iff]
  exact (Bool.or_eq_true_iff.1 relative).imp longer longer

/-- A relative import from an absolute module whose specifier ends with more than dots. -/
structure NamesFile (specifier importer : Text) : Prop where
  relative : isRelativeSpecifier specifier = true
  absolute : Path.isAbsolute importer = true
  named : ∃ c ∈ Path.base specifier, c ≠ Path.dot

namespace NamesFile

variable (names : NamesFile specifier importer)

include names

theorem isName_base : Path.IsName (Path.base specifier) :=
  Path.isName_of_ne_dot names.named (Path.slash_not_mem_base specifier)

theorem base_join :
    Path.base (Path.join (Path.parent importer) specifier) = Path.base specifier :=
  Path.base_join (slash_mem_of_isRelativeSpecifier names.relative) _

theorem isAbsolute_join :
    Path.isAbsolute (Path.join (Path.parent importer) specifier) = true :=
  Path.isAbsolute_join (Path.isAbsolute_parent names.absolute) _

theorem base_target : Path.base (target specifier importer) = Path.base specifier := by
  rw [target, Path.base_normalize names.isAbsolute_join (names.base_join ▸ names.isName_base),
    names.base_join]

theorem endsWithName : Path.EndsWithName specifier := by
  obtain ⟨front, spelled⟩ := Path.base_suffix specifier
  rw [← spelled]
  exact names.isName_base.isPart.endsWithName.append front

/-- With an extension the specifier names the path with that extension. -/
theorem target_append (isExtension : Path.IsExtension e) :
    target (specifier ++ e) importer = target specifier importer ++ e := by
  have relative := isAbsolute_of_isRelativeSpecifier names.relative
  have relative' := isAbsolute_of_isRelativeSpecifier (isRelativeSpecifier_append names.relative e)
  have longer : Path.join (Path.parent importer) (specifier ++ e) =
      Path.join (Path.parent importer) specifier ++ e := by
    simp only [Path.join, relative, relative', Bool.false_eq_true, if_false]
    split <;> simp
  rw [target, longer]
  refine Path.normalize_append names.isAbsolute_join ?_ ?_
  · exact names.base_join ▸ names.isName_base
  · rw [names.base_join]
    exact isExtension.isName_append names.isName_base.2.2.2

theorem append (isExtension : Path.IsExtension e) : NamesFile (specifier ++ e) importer where
  relative := isRelativeSpecifier_append names.relative e
  absolute := names.absolute
  named := by
    obtain ⟨c, hc, other⟩ := names.named
    rw [Path.base_append isExtension.slash_not_mem]
    exact ⟨c, List.mem_append_left _ hc, other⟩

/-- Every file that the specifier may mean is looked for, before any index file. -/
theorem resolve_eq :
    r.resolve specifier importer =
      ((r.fileProbes (target specifier importer)).find? fun path => r.paths.contains path).or
        ((r.indexProbes (target specifier importer)).find? fun path => r.paths.contains path) := by
  rw [resolve, if_pos names.relative, candidates, names.endsWithName.ends_slash]
  exact List.find?_append

/-- The files that a specifier without an extension may mean. -/
theorem fileProbes_of_bare (plain : ∀ e ∈ r.knownExtensions, Path.IsExtension e)
    (bare : Path.extension (Path.base specifier) = []) :
    r.fileProbes (target specifier importer) = target specifier importer ::
      r.knownExtensions.map fun e => target specifier importer ++ e := by
  have none : Path.extension (target specifier importer) = [] := by
    rw [← Path.extension_base, names.base_target, bare]
  have unknown : [] ∉ r.knownExtensions := fun known => (plain [] known).ne_nil rfl
  rw [knownExtensions, List.mem_append, not_or] at unknown
  simp only [fileProbes, none, unknown.1, unknown.2, if_false]

/-- The files that a specifier with a code extension may mean. -/
theorem fileProbes_append (isExtension : Path.IsExtension e) (code : e ∈ r.extensions) :
    r.fileProbes (target specifier importer ++ e) = (target specifier importer ++ e) ::
      (r.extensions.filter fun other => other ≠ e).map fun other =>
        target specifier importer ++ other := by
  have named : ∃ c ∈ Path.base (target specifier importer), c ≠ Path.dot :=
    names.base_target ▸ names.named
  have nonempty : e.isEmpty = false := by simpa using isExtension.ne_nil
  simp only [fileProbes, Path.extension_append isExtension named, code,
    Path.stem_append isExtension named, nonempty, if_true, Bool.false_eq_true, if_false]

/-- If a specifier without an extension leads nowhere, its path is unknown under every
extension. -/
theorem append_not_mem_paths (plain : ∀ e ∈ r.knownExtensions, Path.IsExtension e)
    (bare : Path.extension (Path.base specifier) = [])
    (unresolved : r.resolve specifier importer = none) (known : e ∈ r.knownExtensions) :
    target specifier importer ++ e ∉ r.paths := by
  rw [names.resolve_eq, Option.or_eq_none_iff, names.fileProbes_of_bare plain bare,
    List.find?_eq_none] at unresolved
  rw [← List.contains_iff_mem]
  exact unresolved.1 _ (List.mem_cons_of_mem _ (List.mem_map_of_mem known))

/-- With a code extension it leads to an index file at best. -/
theorem resolve_append (plain : ∀ e ∈ r.knownExtensions, Path.IsExtension e)
    (bare : Path.extension (Path.base specifier) = [])
    (unresolved : r.resolve specifier importer = none) (code : e ∈ r.extensions) :
    r.resolve (specifier ++ e) importer =
      (r.indexProbes (target specifier importer ++ e)).find? fun path => r.paths.contains path := by
  have isExtension := plain e (List.mem_append_left _ code)
  have unknown (other : Text) (listed : other ∈ r.extensions) :
      ¬ r.paths.contains (target specifier importer ++ other) = true := by
    rw [List.contains_iff_mem]
    exact names.append_not_mem_paths plain bare unresolved (List.mem_append_left _ listed)
  have missing : ((r.fileProbes (target specifier importer ++ e)).find? fun path =>
      r.paths.contains path) = none := by
    rw [names.fileProbes_append isExtension code, List.find?_eq_none]
    intro path probed
    rcases List.mem_cons.1 probed with rfl | probed
    · exact unknown e code
    · obtain ⟨other, listed, rfl⟩ := List.mem_map.1 probed
      exact unknown other (List.mem_filter.1 listed).1
  rw [(names.append isExtension).resolve_eq, names.target_append isExtension, missing,
    Option.none_or]

end NamesFile

end Resolver

namespace ImportClassifier

/-- The missing extension is suggested in vain. Where the default conventions leave a
relative import of an absolute module without a target, and the specifier ends with more
than dots and has no extension, the suggestion is to try it with `.js`. The specifier with
`.js` leads nowhere, or to an index file directly inside a directory with this name. It
never leads to the path of the import under one of the known extensions. -/
theorem suggested_extension_misses {r : Resolver} (code : r.extensions = defaultExtensions)
    (data : r.dataExtensions = defaultDataExtensions) {c : ImportClassifier}
    (extensions : c.extensions = defaultExtensions) {f : UnresolvedImport}
    (absolute : Path.isAbsolute f.importer = true)
    (relative : isRelativeSpecifier f.specifier = true)
    (unresolved : r.resolve f.specifier f.importer = none)
    (named : ∃ ch ∈ Path.base f.specifier, ch ≠ Path.dot)
    (bare : Path.extension (Path.base f.specifier) = []) :
    let path := Resolver.target f.specifier f.importer
    let suggested := f.specifier ++ ".js"
    (c.detect .missingExtension f.subject =
        some { suggestion := some ("Try '" ++ suggested ++ "'") } ∧
      ("Try '" ++ suggested ++ "'" : Text) ∈
        (Evaluation.ofSignals c.signals f.subject).suggestions) ∧
      Resolver.target suggested f.importer = path ++ ".js" ∧
      (r.resolve suggested f.importer = none ∨
        ∃ e ∈ defaultExtensions ++ defaultDataExtensions,
          r.resolve suggested f.importer = some (Path.under (path ++ ".js") ("index" ++ e))) ∧
      ∀ e ∈ defaultExtensions ++ defaultDataExtensions,
        r.resolve suggested f.importer ≠ some (path ++ e) := by
  intro path suggested
  have known : r.knownExtensions = defaultExtensions ++ defaultDataExtensions := by
    rw [Resolver.knownExtensions, code, data]
  have plain : ∀ e ∈ r.knownExtensions, Path.IsExtension e := by
    rw [known]
    decide
  have listed : Text.ofString ".js" ∈ r.extensions := by
    rw [code]
    decide
  have isExtension : Path.IsExtension (Text.ofString ".js") := by decide
  have names : Resolver.NamesFile f.specifier f.importer := ⟨relative, absolute, named⟩
  have directory : Path.EndsWithName (path ++ Text.ofString ".js") :=
    Path.EndsWithName.append ⟨".j", 's', rfl, by decide⟩ path
  have resolved := names.resolve_append plain bare unresolved listed
  refine ⟨⟨?_, ?_⟩, names.target_append isExtension, ?_, ?_⟩
  · rw [detect, extensions]
    simp [UnresolvedImport.subject, given, bare, defaultExtensions, suggested]
  · exact mem_suggestions_iff.2 ⟨.missingExtension, .extension extensions rfl bare⟩
  · cases found : r.resolve suggested f.importer with
    | none => exact .inl rfl
    | some index =>
      rw [resolved] at found
      obtain ⟨e, listed, rfl⟩ := List.mem_map.1 (List.mem_of_find?_eq_some found)
      refine .inr ⟨e, known ▸ listed, ?_⟩
      rw [Path.join_of_endsWithName directory rfl]
  · intro e listed found
    rw [resolved] at found
    refine names.append_not_mem_paths plain bare unresolved (known ▸ listed) ?_
    exact List.contains_iff_mem.1 (List.find?_some found)

/-- A file name that begins with a dot, in a directory that the specifier leaves again. -/
theorem suggested_extension_misses_hidden_file :
    let r := Resolver.ofPaths ["/p/main.js", "/p/.env.js/index.ts"] none defaultExtensions
      defaultDataExtensions
    let f : UnresolvedImport := ⟨"/p/main.js", "./x/../.env", none⟩
    let c := make (some r) .empty {} .empty defaultExtensions
    r.resolve f.specifier f.importer = none ∧
      c.detect .missingExtension f.subject =
        some { suggestion := some "Try './x/../.env.js'" } ∧
      r.resolve "./x/../.env.js" f.importer = some "/p/.env.js/index.ts" ∧
      ∀ e ∈ defaultExtensions ++ defaultDataExtensions,
        r.resolve "./x/../.env.js" f.importer ≠ some ("/p/.env" ++ e) := by
  intro r f c
  have unresolved : r.resolve f.specifier f.importer = none := by decide
  have path : Resolver.target f.specifier f.importer = "/p/.env" := by decide
  have spelled : f.specifier ++ Text.ofString ".js" = "./x/../.env.js" := by decide
  have sentence : "Try '" ++ Text.ofString "./x/../.env.js" ++ "'" = "Try './x/../.env.js'" := by
    decide
  obtain ⟨⟨suggested, -⟩, -, -, misses⟩ := suggested_extension_misses (c := c) rfl rfl rfl
    (by decide) (by decide) unresolved (by decide) (by decide)
  rw [spelled, sentence] at suggested
  rw [path, spelled] at misses
  exact ⟨unresolved, suggested, by decide, misses⟩

end ImportClassifier

end ModuleAudit
