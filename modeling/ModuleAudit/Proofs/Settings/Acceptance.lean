import ModuleAudit.Proofs.Settings.Grammar

/-!
# Sections that are accepted

The readers of the sections accept exactly what the grammar describes. Rules, weights
and the details of coupling are looked up setting by setting. The sections on scanning
and on checks are read field by field in the order of their keys, over what has been
read so far; each field writes one setting, so that after a run of fields every
setting has the last value that was written for it.
-/

namespace ModuleAudit

namespace Settings

open SettingsReading

/-! ## Sections that are read as a whole -/

theorem reads_coupling : Reads CouplingSettings.WrittenAs "analysis.coupling" readCoupling := by
  have mapping := reads_mapping "analysis.coupling"
  have enabled := reads_switch "analysis.coupling.enabled"
  have threshold := reads_count "analysis.coupling.threshold"
  have excludePatterns := reads_texts "analysis.coupling.exclude_patterns"
  constructor
  · intro v s
    constructor
    · intro read
      unfold readCoupling at read
      split at read
      · exact .inl ⟨_, rfl, (Except.ok.inj read).symm⟩
      · obtain ⟨t, ht, read⟩ := ok_steps_of_bind read
        obtain ⟨on, hon, read⟩ := ok_steps_of_bind read
        obtain ⟨most, hmost, read⟩ := ok_steps_of_bind read
        obtain ⟨patterns, hpatterns, read⟩ := ok_steps_of_bind read
        cases read
        exact .inr ⟨t, mapping.ok_iff.1 ht,
          { enabled := enabled.setting_ok_iff.1 hon
            threshold := threshold.setting_ok_iff.1 hmost
            excludePatterns := excludePatterns.setting_ok_iff.1 hpatterns }⟩
    · rintro (⟨on, rfl, rfl⟩ | ⟨t, written, settings⟩)
      · rfl
      · have read := mapping.ok_iff.2 written
        obtain ⟨fields, rfl, -⟩ := written
        exact bind_of_ok_steps read
          (bind_of_ok_steps (enabled.setting_ok_iff.2 settings.enabled)
            (bind_of_ok_steps (threshold.setting_ok_iff.2 settings.threshold)
              (bind_of_ok_steps (excludePatterns.setting_ok_iff.2 settings.excludePatterns) rfl)))
  · intro v e failed
    unfold readCoupling at failed
    split at failed
    · cases failed
    · rcases error_steps_of_bind failed with failed | ⟨t, -, failed⟩
      · exact mapping.within failed
      rcases error_steps_of_bind failed with failed | ⟨on, -, failed⟩
      · exact (enabled.setting_within failed).outer
      rcases error_steps_of_bind failed with failed | ⟨most, -, failed⟩
      · exact (threshold.setting_within failed).outer
      rcases error_steps_of_bind failed with failed | ⟨patterns, -, failed⟩
      · exact (excludePatterns.setting_within failed).outer
      · cases failed

theorem reads_rules : Reads Rules.WrittenAs "rules" readRules := by
  have mapping := reads_mapping "rules"
  have ignoredImports := reads_texts "rules.ignored_imports"
  have publicApiPaths := reads_texts "rules.public_api_paths"
  constructor
  · intro v r
    constructor
    · intro read
      obtain ⟨t, ht, read⟩ := ok_steps_of_bind read
      obtain ⟨ignored, hignored, read⟩ := ok_steps_of_bind read
      obtain ⟨imports, himports, read⟩ := ok_steps_of_bind read
      obtain ⟨paths, hpaths, read⟩ := ok_steps_of_bind read
      cases read
      exact ⟨t, mapping.ok_iff.1 ht,
        { ignoredExports := reads_ignoredExports.setting_ok_iff.1 hignored
          ignoredImports := ignoredImports.setting_ok_iff.1 himports
          publicApiPaths := publicApiPaths.setting_ok_iff.1 hpaths }⟩
    · rintro ⟨t, written, settings⟩
      exact bind_of_ok_steps (mapping.ok_iff.2 written)
        (bind_of_ok_steps (reads_ignoredExports.setting_ok_iff.2 settings.ignoredExports)
          (bind_of_ok_steps (ignoredImports.setting_ok_iff.2 settings.ignoredImports)
            (bind_of_ok_steps (publicApiPaths.setting_ok_iff.2 settings.publicApiPaths) rfl)))
  · intro v e failed
    rcases error_steps_of_bind failed with failed | ⟨t, -, failed⟩
    · exact mapping.within failed
    rcases error_steps_of_bind failed with failed | ⟨ignored, -, failed⟩
    · exact (reads_ignoredExports.setting_within failed).outer
    rcases error_steps_of_bind failed with failed | ⟨imports, -, failed⟩
    · exact (ignoredImports.setting_within failed).outer
    rcases error_steps_of_bind failed with failed | ⟨paths, -, failed⟩
    · exact (publicApiPaths.setting_within failed).outer
    · cases failed

theorem reads_weights : Reads Weights.WrittenAs "weights" readWeights := by
  have exports := reads_weightTable "weights.exports" defaultExportWeights
  have imports := reads_weightTable "weights.imports" defaultImportWeights
  constructor
  · intro v w
    constructor
    · intro read
      cases v with
      | obj fields =>
        obtain ⟨forExports, hexports, read⟩ := ok_steps_of_bind read
        obtain ⟨forImports, himports, read⟩ := ok_steps_of_bind read
        cases read
        exact
          { object := ⟨fields, rfl⟩
            exports := exports.setting_ok_iff.1 hexports
            imports := imports.setting_ok_iff.1 himports }
      | _ => cases read
    · intro written
      obtain ⟨fields, rfl⟩ := written.object
      exact bind_of_ok_steps (exports.setting_ok_iff.2 written.exports)
        (bind_of_ok_steps (imports.setting_ok_iff.2 written.imports) rfl)
  · intro v e failed
    cases v with
    | obj fields =>
      rcases error_steps_of_bind failed with failed | ⟨forExports, -, failed⟩
      · exact (exports.setting_within failed).outer
      rcases error_steps_of_bind failed with failed | ⟨forImports, -, failed⟩
      · exact (imports.setting_within failed).outer
      · cases failed
    | _ =>
      cases failed
      exact within_self rfl

/-! ## Sections that are read field by field -/

/-- A field writes a setting under one of its keys, and leaves it alone under any other. -/
structure Updates {α : Type} (Form : Json → α → Prop) (keys : List Text) (e : Text × Json)
    (a b : α) : Prop where
  written : e.1 ∈ keys → Form e.2 b
  kept : e.1 ∉ keys → b = a

section

variable {σ α : Type} {step : σ → Text × Json → Except SettingsError σ} {get : σ → α}
  {Form : Json → α → Prop}

/-- After a run of fields, all values under the keys of a setting have its form, and the
last of them counts. -/
theorem setting_of_foldlM {keys : List Text}
    (updates : ∀ {s e s'}, step s e = .ok s' → Updates Form keys e (get s) (get s'))
    {entries : List (Text × Json)} {s s' : σ} (read : entries.foldlM step s = .ok s') :
    (∀ v ∈ valuesAt keys entries, ∃ a, Form v a) ∧
      Setting Form (get s) (valuesAt keys entries).getLast? (get s') := by
  induction entries generalizing s with
  | nil =>
    cases read
    refine ⟨?_, rfl⟩
    intro v listed
    cases listed
  | cons e entries ih =>
    rw [List.foldlM_cons] at read
    obtain ⟨middle, first, later⟩ := ok_steps_of_bind read
    obtain ⟨readable, setting⟩ := ih later
    have update := updates first
    by_cases writes : e.1 ∈ keys
    · have values : valuesAt keys (e :: entries) = e.2 :: valuesAt keys entries := by
        simp [valuesAt, writes]
      rw [values, List.getLast?_cons]
      refine ⟨List.forall_mem_cons.2 ⟨⟨_, update.written writes⟩, readable⟩, ?_⟩
      cases last : (valuesAt keys entries).getLast? with
      | none =>
        rw [last] at setting
        have kept : get s' = get middle := setting
        exact kept ▸ update.written writes
      | some v =>
        rw [last] at setting
        exact setting
    · have values : valuesAt keys (e :: entries) = valuesAt keys entries := by
        simp [valuesAt, writes]
      rw [values, ← update.kept writes]
      exact ⟨readable, setting⟩

/-- Under a single key there is at most one value. -/
theorem valuesAt_singleton (t : Table Text Json) (key : Text) :
    valuesAt [key] t.entries = (t.get? key).toList := by
  have entries := congrArg (List.map Prod.snd) (t.filter_flatMap_entries (fun v => [v]) key)
  cases found : t.get? key <;> simpa [valuesAt, found] using entries

/-- After a run of fields, a setting with one key is as it is written in the table. -/
theorem setting_of_run {key : Text} {t : Table Text Json} {s s' : σ}
    (updates : ∀ {s e s'}, step s e = .ok s' → Updates Form [key] e (get s) (get s'))
    (read : t.entries.foldlM step s = .ok s') : Setting Form (get s) (t.get? key) (get s') := by
  have setting := (setting_of_foldlM updates read).2
  rw [valuesAt_singleton] at setting
  cases found : t.get? key with
  | none => rw [found] at setting; exact setting
  | some v => rw [found] at setting; exact setting

end

/-- A section that is read field by field has the settings of its grammar, if a run of
fields gives these and a field that fails leaves no section to be given. -/
theorem reads_fields {σ : Type} {step : σ → Text × Json → Except SettingsError σ} {start : σ}
    {place : Text} {Written : Table Text Json → σ → Prop}
    (sound : ∀ {t s}, t.entries.foldlM step start = .ok s → Written t s)
    (faulty : ∀ {t e s error}, t.get? e.1 = some e.2 → step s e = .error error →
      error.Within place ∧ ∀ s', ¬ Written t s')
    (unique : ∀ {t s s'}, Written t s → Written t s' → s = s') :
    Reads (fun v s => ∃ t, IsMapping v t ∧ Written t s) place fun v =>
      expectMapping place v >>= fun t => t.entries.foldlM step start := by
  have mapping := reads_mapping place
  have failing {t : Table Text Json} {error : SettingsError}
      (failed : t.entries.foldlM step start = .error error) :
      error.Within place ∧ ∀ s, ¬ Written t s := by
    obtain ⟨e, listed, s, failed⟩ := exists_of_foldlM_eq_error failed
    exact faulty (Table.get?_of_mem_entries listed) failed
  constructor
  · intro v s
    constructor
    · intro read
      obtain ⟨t, ht, read⟩ := ok_steps_of_bind read
      exact ⟨t, mapping.ok_iff.1 ht, sound read⟩
    · rintro ⟨t, ht, written⟩
      refine bind_of_ok_steps (mapping.ok_iff.2 ht) ?_
      cases read : t.entries.foldlM step start with
      | error error => exact absurd written ((failing read).2 s)
      | ok s' => rw [unique (sound read) written]
  · intro v error failed
    rcases error_steps_of_bind failed with failed | ⟨t, -, failed⟩
    · exact mapping.within failed
    · exact (failing failed).1

section

variable {σ α : Type} {Form : Json → α → Prop} {place : Text}
  {reader : Json → Except SettingsError α} {put : α → σ} {v : Json}

/-- A field whose value is put in its place has the form of the value. -/
theorem form_of_put (reads : Reads Form place reader) {s : σ}
    (read : (do return put (← ofExcept (reader v)) : SettingsReading σ).outcome = .ok s) :
    ∃ a, Form v a ∧ put a = s := by
  rw [outcome_bind] at read
  obtain ⟨a, ha, made⟩ := ok_steps_of_bind read
  exact ⟨a, reads.ok_iff.1 ha, Except.ok.inj made⟩

theorem formless_of_put (reads : Reads Form place reader) {e : SettingsError}
    (failed : (do return put (← ofExcept (reader v)) : SettingsReading σ).outcome = .error e) :
    e.Within place ∧ ∀ a, ¬ Form v a := by
  rw [outcome_bind] at failed
  rcases error_steps_of_bind failed with failed | ⟨a, -, made⟩
  · exact ⟨reads.within failed, reads.not_form failed⟩
  · cases made

theorem Updates.here {keys : List Text} {k : Text} {a b : α} (listed : k ∈ keys) (form : Form v b) :
    Updates Form keys (k, v) a b :=
  ⟨fun _ => form, fun other => absurd listed other⟩

theorem Updates.elsewhere {keys : List Text} {k : Text} {a : α} (other : k ∉ keys) :
    Updates Form keys (k, v) a a :=
  ⟨fun listed => absurd listed other, fun _ => rfl⟩

end

/-! ## Scanning -/

/-- What one field does to the section on scanning. -/
structure ScanStep (s : ScanSettings) (e : Text × Json) (s' : ScanSettings) : Prop where
  extensions : Updates IsExtensions ["extensions"] e s.extensions s'.extensions
  dataExtensions : Updates IsExtensions ["data_extensions"] e s.dataExtensions s'.dataExtensions
  exclude : Updates IsTexts ["exclude"] e s.exclude s'.exclude
  testPatterns : Updates IsTexts ["test_patterns"] e s.testPatterns s'.testPatterns
  respectGitignore : Updates IsSwitch ["respect_gitignore"] e s.respectGitignore s'.respectGitignore
  ignoreTestFiles : Updates IsSwitch ["ignore_test_files"] e s.ignoreTestFiles s'.ignoreTestFiles

theorem scanStep_of_readScanField {s s' : ScanSettings} {e : Text × Json}
    (read : (readScanField s e).outcome = .ok s') : ScanStep s e s' := by
  obtain ⟨key, v⟩ := e
  unfold readScanField at read
  dsimp only at read
  split_ifs at read with extensions dataExtensions exclude testPatterns respect ignore
  · subst extensions
    obtain ⟨texts, form, rfl⟩ := form_of_put (reads_texts _) read
    exact ⟨.here (by simp) ⟨texts, form, rfl⟩, .elsewhere (by simp), .elsewhere (by simp),
      .elsewhere (by simp), .elsewhere (by simp), .elsewhere (by simp)⟩
  · subst dataExtensions
    obtain ⟨texts, form, rfl⟩ := form_of_put (reads_texts _) read
    exact ⟨.elsewhere (by simp), .here (by simp) ⟨texts, form, rfl⟩, .elsewhere (by simp),
      .elsewhere (by simp), .elsewhere (by simp), .elsewhere (by simp)⟩
  · subst exclude
    obtain ⟨texts, form, rfl⟩ := form_of_put (reads_texts _) read
    exact ⟨.elsewhere (by simp), .elsewhere (by simp), .here (by simp) form,
      .elsewhere (by simp), .elsewhere (by simp), .elsewhere (by simp)⟩
  · subst testPatterns
    obtain ⟨texts, form, rfl⟩ := form_of_put (reads_texts _) read
    exact ⟨.elsewhere (by simp), .elsewhere (by simp), .elsewhere (by simp),
      .here (by simp) form, .elsewhere (by simp), .elsewhere (by simp)⟩
  · subst respect
    obtain ⟨switch, form, rfl⟩ := form_of_put (reads_switch _) read
    exact ⟨.elsewhere (by simp), .elsewhere (by simp), .elsewhere (by simp),
      .elsewhere (by simp), .here (by simp) form, .elsewhere (by simp)⟩
  · subst ignore
    obtain ⟨switch, form, rfl⟩ := form_of_put (reads_switch _) read
    exact ⟨.elsewhere (by simp), .elsewhere (by simp), .elsewhere (by simp),
      .elsewhere (by simp), .elsewhere (by simp), .here (by simp) form⟩
  · cases read
    exact ⟨.elsewhere (by simpa using extensions), .elsewhere (by simpa using dataExtensions),
      .elsewhere (by simpa using exclude), .elsewhere (by simpa using testPatterns),
      .elsewhere (by simpa using respect), .elsewhere (by simpa using ignore)⟩

/-- A field that cannot be read leaves its section without settings. -/
theorem not_writtenIn_of_readScanField {t : Table Text Json} {s : ScanSettings} {e : Text × Json}
    {error : SettingsError} (written : t.get? e.1 = some e.2)
    (failed : (readScanField s e).outcome = .error error) :
    error.Within "scan" ∧ ∀ s' : ScanSettings, ¬ s'.WrittenIn t := by
  obtain ⟨key, v⟩ := e
  unfold readScanField at failed
  dsimp only at failed
  split_ifs at failed with extensions dataExtensions exclude testPatterns respect ignore
  · subst extensions
    obtain ⟨within, formless⟩ := formless_of_put (reads_texts _) failed
    refine ⟨within.outer, fun s' settings => ?_⟩
    obtain ⟨texts, form, -⟩ := settings.extensions.form written
    exact formless texts form
  · subst dataExtensions
    obtain ⟨within, formless⟩ := formless_of_put (reads_texts _) failed
    refine ⟨within.outer, fun s' settings => ?_⟩
    obtain ⟨texts, form, -⟩ := settings.dataExtensions.form written
    exact formless texts form
  · subst exclude
    obtain ⟨within, formless⟩ := formless_of_put (reads_texts _) failed
    exact ⟨within.outer, fun s' settings => formless _ (settings.exclude.form written)⟩
  · subst testPatterns
    obtain ⟨within, formless⟩ := formless_of_put (reads_texts _) failed
    exact ⟨within.outer, fun s' settings => formless _ (settings.testPatterns.form written)⟩
  · subst respect
    obtain ⟨within, formless⟩ := formless_of_put (reads_switch _) failed
    exact ⟨within.outer, fun s' settings => formless _ (settings.respectGitignore.form written)⟩
  · subst ignore
    obtain ⟨within, formless⟩ := formless_of_put (reads_switch _) failed
    exact ⟨within.outer, fun s' settings => formless _ (settings.ignoreTestFiles.form written)⟩
  · cases failed

theorem scan_unique {t : Table Text Json} {s s' : ScanSettings} (hs : s.WrittenIn t)
    (hs' : s'.WrittenIn t) : s = s' := by
  cases s
  cases s'
  rw [ScanSettings.mk.injEq]
  have extensions := reads_extensions "scan"
  have texts := reads_texts "scan"
  have switch := reads_switch "scan"
  exact ⟨hs.extensions.unique extensions hs'.extensions,
    hs.dataExtensions.unique extensions hs'.dataExtensions, hs.exclude.unique texts hs'.exclude,
    hs.respectGitignore.unique switch hs'.respectGitignore,
    hs.ignoreTestFiles.unique switch hs'.ignoreTestFiles,
    hs.testPatterns.unique texts hs'.testPatterns⟩

theorem reads_scan : Reads ScanSettings.WrittenAs "scan" fun v => (readScan v).outcome := by
  simp only [readScan, outcome_bind, outcome_ofExcept, outcome_foldlM]
  refine reads_fields ?_ not_writtenIn_of_readScanField scan_unique
  intro t s read
  exact
    { extensions := setting_of_run (fun step => (scanStep_of_readScanField step).extensions) read
      dataExtensions :=
        setting_of_run (fun step => (scanStep_of_readScanField step).dataExtensions) read
      exclude := setting_of_run (fun step => (scanStep_of_readScanField step).exclude) read
      testPatterns :=
        setting_of_run (fun step => (scanStep_of_readScanField step).testPatterns) read
      respectGitignore :=
        setting_of_run (fun step => (scanStep_of_readScanField step).respectGitignore) read
      ignoreTestFiles :=
        setting_of_run (fun step => (scanStep_of_readScanField step).ignoreTestFiles) read }

/-! ## Checks -/

/-- What one field does to the section on checks. -/
structure CheckStep (s : CheckSettings) (e : Text × Json) (s' : CheckSettings) : Prop where
  circularDependencies : Updates IsSwitch ["detect_circular_dependencies"] e
    s.circularDependencies s'.circularDependencies
  unusedExports : Updates IsSwitch ["detect_unused_exports"] e s.unusedExports s'.unusedExports
  missingExports : Updates IsSwitch ["detect_missing_exports"] e s.missingExports s'.missingExports
  coupling :
    Updates CouplingSettings.WrittenAs CheckSettings.couplingKeys e s.coupling s'.coupling

theorem checkStep_of_readChecksField {s s' : CheckSettings} {e : Text × Json}
    (read : (readChecksField s e).outcome = .ok s') : CheckStep s e s' := by
  obtain ⟨key, v⟩ := e
  unfold readChecksField at read
  dsimp only at read
  split_ifs at read with circular unused missing coupling
  · subst circular
    obtain ⟨switch, form, rfl⟩ := form_of_put (reads_switch _) read
    exact ⟨.here (by simp) form, .elsewhere (by simp), .elsewhere (by simp),
      .elsewhere (by simp [CheckSettings.couplingKeys])⟩
  · subst unused
    obtain ⟨switch, form, rfl⟩ := form_of_put (reads_switch _) read
    exact ⟨.elsewhere (by simp), .here (by simp) form, .elsewhere (by simp),
      .elsewhere (by simp [CheckSettings.couplingKeys])⟩
  · subst missing
    obtain ⟨switch, form, rfl⟩ := form_of_put (reads_switch _) read
    exact ⟨.elsewhere (by simp), .elsewhere (by simp), .here (by simp) form,
      .elsewhere (by simp [CheckSettings.couplingKeys])⟩
  · obtain ⟨details, form, rfl⟩ := form_of_put reads_coupling read
    have listed : key ∈ CheckSettings.couplingKeys := by
      simpa [CheckSettings.couplingKeys] using coupling
    exact ⟨.elsewhere (by simpa using circular), .elsewhere (by simpa using unused),
      .elsewhere (by simpa using missing), .here listed form⟩
  · have unlisted : key ∉ CheckSettings.couplingKeys := by
      simpa [CheckSettings.couplingKeys] using coupling
    cases read
    exact ⟨.elsewhere (by simpa using circular), .elsewhere (by simpa using unused),
      .elsewhere (by simpa using missing), .elsewhere unlisted⟩

theorem not_writtenIn_of_readChecksField {t : Table Text Json} {s : CheckSettings}
    {e : Text × Json} {error : SettingsError} (written : t.get? e.1 = some e.2)
    (failed : (readChecksField s e).outcome = .error error) :
    error.Within "analysis" ∧ ∀ s' : CheckSettings, ¬ s'.WrittenIn t := by
  obtain ⟨key, v⟩ := e
  unfold readChecksField at failed
  dsimp only at failed
  split_ifs at failed with circular unused missing coupling
  · subst circular
    obtain ⟨within, formless⟩ := formless_of_put (reads_switch _) failed
    exact ⟨within.outer, fun s' settings => formless _ (settings.circularDependencies.form written)⟩
  · subst unused
    obtain ⟨within, formless⟩ := formless_of_put (reads_switch _) failed
    exact ⟨within.outer, fun s' settings => formless _ (settings.unusedExports.form written)⟩
  · subst missing
    obtain ⟨within, formless⟩ := formless_of_put (reads_switch _) failed
    exact ⟨within.outer, fun s' settings => formless _ (settings.missingExports.form written)⟩
  · obtain ⟨within, formless⟩ := formless_of_put reads_coupling failed
    have listed : key ∈ CheckSettings.couplingKeys := by
      simpa [CheckSettings.couplingKeys] using coupling
    have value : v ∈ valuesAt CheckSettings.couplingKeys t.entries := by
      refine List.mem_map.2 ⟨(key, v), List.mem_filter.2 ⟨?_, ?_⟩, rfl⟩
      · exact (t.mem_entries_iff (key, v)).2 written
      · exact List.contains_iff_mem.2 listed
    refine ⟨within.outer, fun s' settings => ?_⟩
    obtain ⟨details, form⟩ := settings.readable v value
    exact formless details form
  · cases failed

theorem checks_unique {t : Table Text Json} {s s' : CheckSettings} (hs : s.WrittenIn t)
    (hs' : s'.WrittenIn t) : s = s' := by
  cases s
  cases s'
  rw [CheckSettings.mk.injEq]
  have switch := reads_switch "analysis"
  exact ⟨hs.circularDependencies.unique switch hs'.circularDependencies,
    hs.unusedExports.unique switch hs'.unusedExports,
    hs.missingExports.unique switch hs'.missingExports,
    hs.coupling.unique reads_coupling hs'.coupling⟩

theorem reads_checks :
    Reads CheckSettings.WrittenAs "analysis" fun v => (readChecks v).outcome := by
  simp only [readChecks, outcome_bind, outcome_ofExcept, outcome_foldlM]
  refine reads_fields ?_ not_writtenIn_of_readChecksField checks_unique
  intro t s read
  obtain ⟨readable, coupling⟩ :=
    setting_of_foldlM (fun step => (checkStep_of_readChecksField step).coupling) read
  exact
    { circularDependencies :=
        setting_of_run (fun step => (checkStep_of_readChecksField step).circularDependencies) read
      unusedExports :=
        setting_of_run (fun step => (checkStep_of_readChecksField step).unusedExports) read
      missingExports :=
        setting_of_run (fun step => (checkStep_of_readChecksField step).missingExports) read
      readable
      coupling }

end Settings

end ModuleAudit
