import ModuleAudit.Proofs.Table
import ModuleAudit.Proofs.Traversal
import ModuleAudit.Settings.Reading

/-!
# The grammar of settings

What a section of the settings has to look like, setting by setting and without the
readers. A setting is either written, and then in the form of its values, or it has
its default. A section has the values that the grammar gives to all of its settings
together, so a section with one faulty setting has no values at all.

A reader accepts the values of a form, and no others. Where it refuses a value, the
error names a place inside of what was read.
-/

namespace ModuleAudit

/-! ## Places of errors -/

namespace SettingsError

def place? : SettingsError → Option Text
  | .documentNotMapping => none
  | .notMapping place | .notTexts place | .notSwitch place | .notCount place
  | .notIgnoreTable place | .notWeightTable place | .notWeight place => some place

/-- Whether an error is about a place or something inside it. -/
def Within (e : SettingsError) (place : Text) : Prop :=
  ∃ inner, e.place? = some inner ∧ (inner = place ∨ place ++ Text.ofString "." <+: inner)

theorem Within.outer {e : SettingsError} {place key : Text}
    (within : e.Within (place ++ Text.ofString "." ++ key)) : e.Within place := by
  obtain ⟨inner, about, inside⟩ := within
  refine ⟨inner, about, .inr ?_⟩
  rcases inside with rfl | inside
  · exact List.prefix_append _ _
  · exact ((List.prefix_append _ _).trans (List.prefix_append _ _)).trans inside

end SettingsError

/-! ## Readings without their journal -/

namespace SettingsReading

variable {α β : Type}

@[simp] theorem outcome_bind (r : SettingsReading α) (f : α → SettingsReading β) :
    (r >>= f).outcome = r.outcome >>= fun a => (f a).outcome := by
  obtain ⟨journal, outcome⟩ := r
  cases outcome <;> rfl

@[simp] theorem outcome_pure (a : α) : (pure a : SettingsReading α).outcome = .ok a := rfl

@[simp] theorem outcome_ofExcept (outcome : Except SettingsError α) :
    (ofExcept outcome).outcome = outcome := rfl

theorem outcome_foldlM (step : β → α → SettingsReading β) (l : List α) (b : β) :
    (l.foldlM step b).outcome = l.foldlM (fun b a => (step b a).outcome) b := by
  induction l generalizing b with
  | nil => rfl
  | cons a l ih => simp only [List.foldlM_cons, outcome_bind, ih]

end SettingsReading

namespace Settings

open SettingsReading

/-! ## Forms of values -/

def IsTexts (v : Json) (texts : List Text) : Prop := v = .arr (texts.map .str)

/-- A list of extensions, which have a dot in front whether it is written or not. -/
def IsExtensions (v : Json) (extensions : List Text) : Prop :=
  ∃ texts, IsTexts v texts ∧ texts.map dotted = extensions

def IsSwitch (v : Json) (switch : Bool) : Prop := v = .bool switch

def IsCount (v : Json) (count : Nat) : Prop := v = .int count

/-- An object with its fields under their respelled keys. -/
def IsMapping (v : Json) (table : Table Text Json) : Prop :=
  ∃ fields, v = .obj fields ∧ .ofList (fields.map fun f => (Text.snakeCase f.1, f.2)) = table

/-- An object with a list of texts in each field. -/
def IsIgnoreTable (v : Json) (table : Table Text (List Text)) : Prop :=
  ∃ rows : List (Text × List Text),
    v = .obj (rows.map fun row => (row.1, .arr (row.2.map .str))) ∧ .ofList rows = table

/-- An object with an integer in each field, written over the default weights. -/
def IsWeightTable (defaults : Table Text Int) (v : Json) (table : Table Text Int) : Prop :=
  ∃ rows : List (Text × Int),
    v = .obj (rows.map fun row => (row.1, .int row.2)) ∧ defaults.insertMany rows = table

/-- What is written for a setting has the form of its values, and a setting for which
nothing is written has its default. -/
def Setting {α : Type} (Form : Json → α → Prop) (default : α) : Option Json → α → Prop
  | none, a => a = default
  | some v, a => Form v a

/-- The values under some keys, in the order in which they are written. -/
def valuesAt (keys : List Text) (entries : List (Text × Json)) : List Json :=
  (entries.filter fun e => keys.contains e.1).map Prod.snd

end Settings

/-! ## Sections -/

open Settings

structure ScanSettings.WrittenIn (t : Table Text Json) (s : ScanSettings) : Prop where
  extensions : Setting IsExtensions defaultExtensions (t.get? "extensions") s.extensions
  dataExtensions :
    Setting IsExtensions defaultDataExtensions (t.get? "data_extensions") s.dataExtensions
  exclude : Setting IsTexts ({} : ScanSettings).exclude (t.get? "exclude") s.exclude
  testPatterns :
    Setting IsTexts ({} : ScanSettings).testPatterns (t.get? "test_patterns") s.testPatterns
  respectGitignore : Setting IsSwitch true (t.get? "respect_gitignore") s.respectGitignore
  ignoreTestFiles : Setting IsSwitch false (t.get? "ignore_test_files") s.ignoreTestFiles

structure CouplingSettings.WrittenIn (t : Table Text Json) (s : CouplingSettings) : Prop where
  enabled : Setting IsSwitch true (t.get? "enabled") s.enabled
  threshold : Setting IsCount defaultThreshold (t.get? "threshold") s.threshold
  excludePatterns : Setting IsTexts [] (t.get? "exclude_patterns") s.excludePatterns

/-- The keys under which the details of coupling may be written. -/
def CheckSettings.couplingKeys : List Text := ["coupling", "detect_high_coupling"]

/-- Coupling is written as a switch or with its details. -/
def CouplingSettings.WrittenAs (v : Json) (s : CouplingSettings) : Prop :=
  (∃ enabled, v = .bool enabled ∧ s = { enabled }) ∨ ∃ t, IsMapping v t ∧ s.WrittenIn t

/-- The section on checks that is written in a table. Coupling may be written twice;
the later one counts, and the other one has to be readable. -/
structure CheckSettings.WrittenIn (t : Table Text Json) (s : CheckSettings) : Prop where
  circularDependencies :
    Setting IsSwitch true (t.get? "detect_circular_dependencies") s.circularDependencies
  unusedExports : Setting IsSwitch true (t.get? "detect_unused_exports") s.unusedExports
  missingExports : Setting IsSwitch true (t.get? "detect_missing_exports") s.missingExports
  readable : ∀ v ∈ valuesAt couplingKeys t.entries, ∃ c, CouplingSettings.WrittenAs v c
  coupling :
    Setting CouplingSettings.WrittenAs {} (valuesAt couplingKeys t.entries).getLast? s.coupling

structure Rules.WrittenIn (t : Table Text Json) (r : Rules) : Prop where
  ignoredExports : Setting IsIgnoreTable .empty (t.get? "ignored_exports") r.ignoredExports
  ignoredImports : Setting IsTexts [] (t.get? "ignored_imports") r.ignoredImports
  publicApiPaths : Setting IsTexts [] (t.get? "public_api_paths") r.publicApiPaths

def ScanSettings.WrittenAs (v : Json) (s : ScanSettings) : Prop :=
  ∃ t, IsMapping v t ∧ s.WrittenIn t

def CheckSettings.WrittenAs (v : Json) (s : CheckSettings) : Prop :=
  ∃ t, IsMapping v t ∧ s.WrittenIn t

def Rules.WrittenAs (v : Json) (r : Rules) : Prop := ∃ t, IsMapping v t ∧ r.WrittenIn t

/-- A section on weights. Its keys are not respelled. -/
structure Weights.WrittenAs (v : Json) (w : Weights) : Prop where
  object : ∃ fields, v = .obj fields
  exports :
    Setting (IsWeightTable defaultExportWeights) defaultExportWeights (v.field? "exports") w.exports
  imports :
    Setting (IsWeightTable defaultImportWeights) defaultImportWeights (v.field? "imports") w.imports

namespace Settings

/-! ## Readers of single values -/

/-- A reader accepts the values of a form, and its errors are about a place. -/
structure Reads {α : Type} (Form : Json → α → Prop) (place : Text)
    (reader : Json → Except SettingsError α) : Prop where
  ok_iff : ∀ {v a}, reader v = .ok a ↔ Form v a
  within : ∀ {v e}, reader v = .error e → e.Within place

section

variable {α : Type} {Form : Json → α → Prop} {place : Text}
  {reader : Json → Except SettingsError α} {v : Json} {e : SettingsError}

namespace Reads

theorem unique (reads : Reads Form place reader) {a b : α} (ha : Form v a) (hb : Form v b) :
    a = b :=
  Except.ok.inj ((reads.ok_iff.2 ha).symm.trans (reads.ok_iff.2 hb))

theorem not_form (reads : Reads Form place reader) (failed : reader v = .error e) (a : α) :
    ¬ Form v a := by
  intro form
  rw [reads.ok_iff.2 form] at failed
  cases failed

theorem exists_error (reads : Reads Form place reader) (formless : ∀ a, ¬ Form v a) :
    ∃ e, reader v = .error e := by
  cases read : reader v with
  | error e => exact ⟨e, rfl⟩
  | ok a => exact absurd (reads.ok_iff.1 read) (formless a)

/-- A setting is read as what is written for it, or it has its default. -/
theorem setting_ok_iff (reads : Reads Form place reader) {default a : α} {written : Option Json} :
    readSetting reader default written = .ok a ↔ Setting Form default written a := by
  cases written with
  | some v => exact reads.ok_iff
  | none => exact ⟨fun read => (Except.ok.inj read).symm, fun same => congrArg _ (Eq.symm same)⟩

theorem setting_within (reads : Reads Form place reader) {default : α} {written : Option Json}
    (failed : readSetting reader default written = .error e) : e.Within place := by
  cases written with
  | some v => exact reads.within failed
  | none => cases failed

end Reads

theorem Setting.form {default a : α} {written : Option Json}
    (setting : Setting Form default written a) (found : written = some v) : Form v a := by
  rw [found] at setting
  exact setting

theorem Setting.unique {default a b : α} {written : Option Json}
    (ha : Setting Form default written a) (reads : Reads Form place reader)
    (hb : Setting Form default written b) : a = b := by
  cases written with
  | some v => exact reads.unique ha hb
  | none => exact Eq.trans ha (Eq.symm hb)

end

/-- An error about a place itself. -/
theorem within_self {e : SettingsError} {place : Text} (about : e.place? = some place) :
    e.Within place :=
  ⟨place, about, .inl rfl⟩

theorem mapM_text?_eq_some_iff {items : List Json} {texts : List Text} :
    items.mapM text? = some texts ↔ items = texts.map .str := by
  induction items generalizing texts with
  | nil => cases texts <;> simp
  | cons item items ih =>
    rw [List.mapM_cons]
    constructor
    · intro read
      obtain ⟨text, first, read⟩ := Option.bind_eq_some_iff.1 read
      obtain ⟨rest, later, made⟩ := Option.bind_eq_some_iff.1 read
      cases made
      cases item with
      | str t => cases first; rw [ih.1 later]; rfl
      | _ => cases first
    · intro same
      cases texts with
      | nil => cases same
      | cons text texts =>
        obtain ⟨rfl, later⟩ := List.cons.inj same
        rw [ih.2 later]
        rfl

theorem reads_texts (place : Text) : Reads IsTexts place (expectTexts place) where
  ok_iff := by
    intro v texts
    cases v with
    | arr items =>
      rw [IsTexts, Json.arr.injEq, ← mapM_text?_eq_some_iff, expectTexts]
      cases items.mapM text? <;> simp
    | _ => simp [expectTexts, IsTexts]
  within := by
    intro v e failed
    unfold expectTexts at failed
    split at failed
    · split at failed <;> cases failed
      exact within_self rfl
    · cases failed
      exact within_self rfl

theorem reads_switch (place : Text) : Reads IsSwitch place (expectSwitch place) where
  ok_iff := by
    intro v switch
    cases v <;> simp [expectSwitch, IsSwitch]
  within := by
    intro v e failed
    unfold expectSwitch at failed
    split at failed <;> cases failed
    exact within_self rfl

theorem reads_count (place : Text) : Reads IsCount place (expectCount place) where
  ok_iff := by
    intro v count
    cases v with
    | int i =>
      cases i with
      | ofNat n =>
        rw [expectCount, IsCount, Except.ok.injEq, Json.int.injEq]
        exact Int.ofNat_inj.symm
      | negSucc n => simp [expectCount, IsCount]
    | _ => simp [expectCount, IsCount]
  within := by
    intro v e failed
    unfold expectCount at failed
    split at failed <;> cases failed
    exact within_self rfl

theorem reads_extensions (place : Text) :
    Reads IsExtensions place fun v => do
      let texts ← expectTexts place v
      return texts.map dotted where
  ok_iff := by
    intro v extensions
    constructor
    · intro read
      obtain ⟨texts, read, made⟩ := ok_steps_of_bind read
      exact ⟨texts, (reads_texts place).ok_iff.1 read, Except.ok.inj made⟩
    · rintro ⟨texts, form, rfl⟩
      exact bind_of_ok_steps ((reads_texts place).ok_iff.2 form) rfl
  within := by
    intro v e failed
    rcases error_steps_of_bind failed with failed | ⟨texts, -, made⟩
    · exact (reads_texts place).within failed
    · cases made

theorem reads_mapping (place : Text) : Reads IsMapping place (expectMapping place) where
  ok_iff := by
    intro v table
    cases v <;> simp [expectMapping, IsMapping]
  within := by
    intro v e failed
    unfold expectMapping at failed
    split at failed <;> cases failed
    exact within_self rfl

/-- A table whose fields are read one by one is an object in which each field has the
form of its value. -/
theorem mapM_fields_eq_ok_iff {α : Type} {reader : Text × Json → Except SettingsError (Text × α)}
    (form : α → Json) (reads : ∀ f row, reader f = .ok row ↔ f = (row.1, form row.2))
    (fields : List (Text × Json)) (rows : List (Text × α)) :
    fields.mapM reader = .ok rows ↔ fields = rows.map fun row => (row.1, form row.2) := by
  rw [mapM_eq_ok_iff]
  simp only [reads]
  rw [← List.forall₂_eq_eq_eq, List.forall₂_map_right_iff]

theorem reads_ignoredExports :
    Reads IsIgnoreTable "rules.ignored_exports" readIgnoredExports where
  ok_iff := by
    intro v table
    have row_iff (f : Text × Json) (row : Text × List Text) :
        (do
          let names ← expectTexts ("rules.ignored_exports." ++ f.1) f.2
          .ok (f.1, names) : Except SettingsError (Text × List Text)) = .ok row ↔
          f = (row.1, .arr (row.2.map .str)) := by
      constructor
      · intro read
        obtain ⟨names, texts, made⟩ := ok_steps_of_bind read
        cases made
        exact Prod.ext rfl ((reads_texts _).ok_iff.1 texts)
      · rintro rfl
        exact bind_of_ok_steps ((reads_texts _).ok_iff.2 rfl) rfl
    have fields_iff :=
      mapM_fields_eq_ok_iff (fun names : List Text => .arr (names.map .str)) row_iff
    constructor
    · intro read
      cases v with
      | obj fields =>
        obtain ⟨rows, read, made⟩ := ok_steps_of_bind read
        exact ⟨rows, congrArg _ ((fields_iff fields rows).1 read), Except.ok.inj made⟩
      | _ => cases read
    · rintro ⟨rows, rfl, rfl⟩
      exact bind_of_ok_steps ((fields_iff _ rows).2 rfl) rfl
  within := by
    intro v e failed
    cases v with
    | obj fields =>
      rcases error_steps_of_bind failed with failed | ⟨rows, -, made⟩
      · obtain ⟨f, -, failed⟩ := exists_of_mapM_eq_error failed
        rcases error_steps_of_bind failed with failed | ⟨names, -, made⟩
        · exact ((reads_texts _).within failed).outer
        · cases made
      · cases made
    | _ =>
      cases failed
      exact within_self rfl

theorem reads_weightTable (place : Text) (defaults : Table Text Int) :
    Reads (IsWeightTable defaults) place (readWeightTable place defaults) where
  ok_iff := by
    intro v table
    have row_iff (f : Text × Json) (row : Text × Int) :
        readWeight place f = .ok row ↔ f = (row.1, .int row.2) := by
      obtain ⟨key, v⟩ := f
      cases v <;> simp [readWeight, Prod.ext_iff]
    have fields_iff := mapM_fields_eq_ok_iff .int row_iff
    constructor
    · intro read
      cases v with
      | obj fields =>
        obtain ⟨rows, read, made⟩ := ok_steps_of_bind read
        exact ⟨rows, congrArg _ ((fields_iff fields rows).1 read), Except.ok.inj made⟩
      | _ => cases read
    · rintro ⟨rows, rfl, rfl⟩
      exact bind_of_ok_steps ((fields_iff _ rows).2 rfl) rfl
  within := by
    intro v e failed
    cases v with
    | obj fields =>
      rcases error_steps_of_bind failed with failed | ⟨rows, -, made⟩
      · obtain ⟨f, -, failed⟩ := exists_of_mapM_eq_error failed
        unfold readWeight at failed
        split at failed <;> cases failed
        exact (within_self rfl).outer
      · cases made
    | _ =>
      cases failed
      exact within_self rfl

end Settings

end ModuleAudit
