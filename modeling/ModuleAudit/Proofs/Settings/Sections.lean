import ModuleAudit.Proofs.Settings.Acceptance

/-!
# Sections of settings

The settings of a document are read section by section, in a fixed order. A lenient
reader always succeeds: a section is either what the grammar says of its field, or,
if the field is faulty, the default section as a whole. It depends on this one field
only. A strict reader fails exactly where a lenient one would have to fall back on
defaults, with the error of the first faulty section, and otherwise reads the same
settings.
-/

namespace ModuleAudit

namespace SettingsReading

variable {α : Type}

theorem outcome_recover (r : SettingsReading α) (f : SettingsError → SettingsReading α) :
    (r.recover f).outcome =
      match r.outcome with
      | .error e => (f e).outcome
      | .ok a => .ok a := by
  unfold recover
  cases outcome : r.outcome with
  | error e => rfl
  | ok a => exact outcome

end SettingsReading

namespace Settings

open SettingsReading

/-- What was read, or the default if that failed. -/
def orDefault {α : Type} (default : α) : Except SettingsError α → α
  | .error _ => default
  | .ok a => a

inductive Section where
  | scan
  | analysis
  | rules
  | weights
deriving DecidableEq

namespace Section

/-- The sections in the order in which they are read. -/
def all : List Section := [.scan, .analysis, .rules, .weights]

def key : Section → Text
  | .scan => "scan"
  | .analysis => "analysis"
  | .rules => "rules"
  | .weights => "weights"

def Content : Section → Type
  | .scan => ScanSettings
  | .analysis => CheckSettings
  | .rules => Rules
  | .weights => Weights

def default : (s : Section) → s.Content
  | .scan => ({} : ScanSettings)
  | .analysis => ({} : CheckSettings)
  | .rules => ({} : Rules)
  | .weights => ({} : Weights)

def WrittenAs : (s : Section) → Json → s.Content → Prop
  | .scan => ScanSettings.WrittenAs
  | .analysis => CheckSettings.WrittenAs
  | .rules => Rules.WrittenAs
  | .weights => Weights.WrittenAs

/-- The value or fault that the reader of a section comes to. -/
def reader : (s : Section) → Json → Except SettingsError s.Content
  | .scan => fun v => (readScan v).outcome
  | .analysis => fun v => (readChecks v).outcome
  | .rules => readRules
  | .weights => readWeights

theorem reads (s : Section) : Reads s.WrittenAs s.key s.reader :=
  match s with
  | .scan => reads_scan
  | .analysis => reads_checks
  | .rules => reads_rules
  | .weights => reads_weights

/-- Whether a section is there and not written as it should be. -/
def Faulty (document : Json) (s : Section) : Prop :=
  ∃ v, document.field? s.key = some v ∧ ∀ content, ¬ s.WrittenAs v content

/-- A section of a document, read strictly. -/
def read (document : Json) (s : Section) : Except SettingsError s.Content :=
  readSetting s.reader s.default (document.field? s.key)

/-- The error of a section that cannot be read. -/
def fault? (document : Json) (s : Section) : Option SettingsError :=
  match s.read document with
  | .error e => some e
  | .ok _ => none

/-- A section of a document, read leniently. -/
def lenient (document : Json) (s : Section) : s.Content := orDefault s.default (s.read document)

variable {document : Json} {s : Section}

theorem fault?_eq_some_iff {e : SettingsError} :
    s.fault? document = some e ↔ ∃ v, document.field? s.key = some v ∧ s.reader v = .error e := by
  unfold fault? read
  cases found : document.field? s.key with
  | none => simp [readSetting]
  | some v => cases result : s.reader v <;> simp [readSetting, result]

theorem isSome_fault?_iff : (s.fault? document).isSome ↔ s.Faulty document := by
  rw [Option.isSome_iff_exists]
  simp only [fault?_eq_some_iff]
  constructor
  · rintro ⟨e, v, found, failed⟩
    exact ⟨v, found, s.reads.not_form failed⟩
  · rintro ⟨v, found, formless⟩
    obtain ⟨e, failed⟩ := s.reads.exists_error formless
    exact ⟨e, v, found, failed⟩

theorem fault?_eq_none_iff : s.fault? document = none ↔ ¬ s.Faulty document := by
  rw [← isSome_fault?_iff, Option.not_isSome_iff_eq_none]

/-- A section that is read leniently is the one that is written or the default one. -/
theorem lenient_cases (document : Json) (s : Section) :
    Setting s.WrittenAs s.default (document.field? s.key) (s.lenient document) ∨
      s.Faulty document ∧ s.lenient document = s.default := by
  unfold lenient
  cases result : s.read document with
  | error e =>
    have faulty : (s.fault? document).isSome := by simp [fault?, result]
    exact .inr ⟨isSome_fault?_iff.1 faulty, rfl⟩
  | ok content => exact .inl (s.reads.setting_ok_iff.1 result)

theorem lenient_of_faulty (faulty : s.Faulty document) :
    s.lenient document = s.default := by
  rcases s.lenient_cases document with setting | ⟨-, byDefault⟩
  · obtain ⟨v, found, formless⟩ := faulty
    exact absurd (setting.form found) (formless _)
  · exact byDefault

theorem setting_of_not_faulty (sound : ¬ s.Faulty document) :
    Setting s.WrittenAs s.default (document.field? s.key) (s.lenient document) :=
  (s.lenient_cases document).resolve_right fun ⟨faulty, _⟩ => sound faulty

end Section

def part (settings : Settings) : (s : Section) → s.Content
  | .scan => settings.scan
  | .analysis => settings.checks
  | .rules => settings.rules
  | .weights => settings.weights

/-- The settings of a document, read leniently section by section. -/
def lenient (document : Json) : Settings where
  scan := Section.scan.lenient document
  checks := Section.analysis.lenient document
  rules := Section.rules.lenient document
  weights := Section.weights.lenient document

theorem part_lenient (document : Json) (s : Section) :
    (lenient document).part s = s.lenient document := by
  cases s <;> rfl

section

variable {α : Type} {document : Json} {name : Text} {defaults : α}
  {reader : Json → SettingsReading α}

theorem outcome_readSection_strict :
    (readSection true document name defaults reader).outcome =
      readSetting (fun v => (reader v).outcome) defaults (document.field? name) := by
  unfold readSection
  cases document.field? name <;> rfl

theorem outcome_readSection_lenient :
    (readSection false document name defaults reader).outcome =
      .ok (orDefault defaults
        (readSetting (fun v => (reader v).outcome) defaults (document.field? name))) := by
  unfold readSection
  cases document.field? name with
  | none => rfl
  | some v =>
    simp only [Bool.false_eq_true, if_false, outcome_recover, readSetting]
    cases (reader v).outcome <;> rfl

end

theorem outcome_read_lenient (document : Json) :
    (Settings.read false document).outcome = .ok (lenient document) := by
  cases document with
  | obj fields =>
    simp only [Settings.read, outcome_bind, outcome_readSection_lenient]
    rfl
  | _ => rfl

theorem outcome_read_strict (fields : List (Text × Json)) :
    (Settings.read true (.obj fields)).outcome =
      match Section.all.findSome? fun s => s.fault? (.obj fields) with
      | some e => .error e
      | none => .ok (lenient (.obj fields)) := by
  have strict : (Settings.read true (.obj fields)).outcome = do
      let scan ← Section.scan.read (.obj fields)
      let checks ← Section.analysis.read (.obj fields)
      let rules ← Section.rules.read (.obj fields)
      let weights ← Section.weights.read (.obj fields)
      return { scan, checks, rules, weights } := by
    simp only [Settings.read, outcome_bind, outcome_readSection_strict]
    rfl
  rw [strict]
  simp only [Section.all, List.findSome?, Section.fault?, lenient, Section.lenient]
  cases Section.scan.read (.obj fields) with
  | error e => rfl
  | ok scan =>
    cases Section.analysis.read (.obj fields) with
    | error e => rfl
    | ok checks =>
      cases Section.rules.read (.obj fields) with
      | error e => rfl
      | ok rules => cases Section.weights.read (.obj fields) <;> rfl

/-! ## The order of the fields -/

/-- Fields with different names are found in any order. -/
theorem find_eq_of_perm {fields fields' : List (Text × Json)}
    (distinct : (fields.map Prod.fst).Nodup) (perm : fields.Perm fields') (name : Text) :
    Table.find name fields = Table.find name fields' := by
  have distinct' : (fields'.map Prod.fst).Nodup := (perm.map _).nodup_iff.1 distinct
  show Table.get? ⟨fields, distinct⟩ name = Table.get? ⟨fields', distinct'⟩ name
  exact Table.get?_eq_of_perm perm name

theorem read_eq_of_perm (strict : Bool) {fields fields' : List (Text × Json)}
    (distinct : (fields.map Prod.fst).Nodup) (perm : fields.Perm fields') :
    Settings.read strict (.obj fields) = Settings.read strict (.obj fields') := by
  simp only [Settings.read, readSection, Json.field?, find_eq_of_perm distinct perm]

/-- Whether a document is neither null nor an object. -/
def Unfit (document : Json) : Prop := document ≠ .null ∧ ∀ fields, document ≠ .obj fields

/-- Why a strict reader refuses a document: it is no document, or it has a first faulty
section. -/
inductive Refusal (document : Json) : SettingsError → Prop
  | unfit (unfit : Unfit document) : Refusal document .documentNotMapping
  | fault {earlier later : List Section} {s : Section} {v : Json} {e : SettingsError}
      (order : Section.all = earlier ++ s :: later)
      (sound : ∀ s' ∈ earlier, ¬ s'.Faulty document)
      (found : document.field? s.key = some v) (failed : s.reader v = .error e)
      (within : e.Within s.key) : Refusal document e

theorem findSome?_fault?_eq_some_iff {document : Json} {e : SettingsError}
    (fit : ¬ Unfit document) :
    (Section.all.findSome? fun s => s.fault? document) = some e ↔ Refusal document e := by
  rw [List.findSome?_eq_some_iff]
  constructor
  · rintro ⟨earlier, s, later, order, fault, sound⟩
    obtain ⟨v, found, failed⟩ := Section.fault?_eq_some_iff.1 fault
    exact .fault order (fun s' listed => Section.fault?_eq_none_iff.1 (sound s' listed)) found
      failed (s.reads.within failed)
  · intro refusal
    cases refusal with
    | unfit unfit => exact absurd unfit fit
    | @fault earlier later s v _ order sound found failed =>
      exact ⟨earlier, s, later, order, Section.fault?_eq_some_iff.2 ⟨v, found, failed⟩,
        fun s' listed => Section.fault?_eq_none_iff.2 (sound s' listed)⟩

theorem read_strict_eq_error_iff (document : Json) (e : SettingsError) :
    (Settings.read true document).outcome = .error e ↔ Refusal document e := by
  cases document with
  | null =>
    refine iff_of_false (fun failed => by cases failed) fun refusal => ?_
    cases refusal with
    | unfit unfit => exact unfit.1 rfl
    | fault order sound found => cases found
  | obj fields =>
    have fit : ¬ Unfit (.obj fields) := fun unfit => unfit.2 fields rfl
    rw [outcome_read_strict, ← findSome?_fault?_eq_some_iff fit]
    cases Section.all.findSome? fun s => s.fault? (.obj fields) <;> simp
  | _ =>
    constructor
    · intro failed
      cases failed
      exact .unfit ⟨by simp, by simp⟩
    · intro refusal
      cases refusal with
      | unfit unfit => rfl
      | fault order sound found => cases found

/-- A document is refused exactly when it is no document or one of its sections is
faulty. -/
theorem exists_refusal_iff (document : Json) :
    (∃ e, Refusal document e) ↔ Unfit document ∨ ∃ s : Section, s.Faulty document := by
  constructor
  · rintro ⟨e, refusal⟩
    cases refusal with
    | unfit unfit => exact .inl unfit
    | @fault earlier later s v _ order sound found failed =>
      exact .inr ⟨s, v, found, s.reads.not_form failed⟩
  · intro reasons
    by_cases unfit : Unfit document
    · exact ⟨_, .unfit unfit⟩
    · obtain ⟨s, faulty⟩ := reasons.resolve_left unfit
      have listed : s ∈ Section.all := by cases s <;> decide
      have some : (Section.all.findSome? fun s => s.fault? document).isSome :=
        List.findSome?_isSome_iff.2 ⟨s, listed, Section.isSome_fault?_iff.2 faulty⟩
      obtain ⟨e, first⟩ := Option.isSome_iff_exists.1 some
      exact ⟨e, (findSome?_fault?_eq_some_iff unfit).1 first⟩

/-- Every document has settings when it is read leniently. Each section is the one that
is written, or the default one if that is faulty, and depends on its own field only. A
strict reader refuses the document for the first of its faults, if it has one, and
otherwise reads the same settings. Neither depends on the order of the fields. -/
theorem read_sectionwise (document : Json) :
    ∃ settings, (Settings.read false document).outcome = .ok settings ∧
      (∀ s : Section,
        Setting s.WrittenAs s.default (document.field? s.key) (settings.part s) ∨
          s.Faulty document ∧ settings.part s = s.default) ∧
      (∀ other settings' s, (Settings.read false other).outcome = .ok settings' →
        other.field? s.key = document.field? s.key → settings'.part s = settings.part s) ∧
      (∀ e, (Settings.read true document).outcome = .error e ↔ Refusal document e) ∧
      ((∃ e, (Settings.read true document).outcome = .error e) ↔
        Unfit document ∨ ∃ s : Section, s.Faulty document) ∧
      (∀ settings', (Settings.read true document).outcome = .ok settings' →
        settings' = settings) ∧
      ∀ fields fields', document = .obj fields → (fields.map Prod.fst).Nodup →
        fields.Perm fields' →
          ∀ strict, Settings.read strict (.obj fields') = Settings.read strict document := by
  refine ⟨lenient document, outcome_read_lenient document, ?_, ?_,
    read_strict_eq_error_iff document, ?_, ?_, ?_⟩
  · intro s
    rw [part_lenient]
    exact s.lenient_cases document
  · intro other settings' s read same
    rw [outcome_read_lenient] at read
    cases read
    rw [part_lenient, part_lenient, Section.lenient, Section.read, same]
    rfl
  · simp only [read_strict_eq_error_iff]
    exact exists_refusal_iff document
  · intro settings' read
    cases document with
    | null =>
      cases read
      rfl
    | obj fields =>
      rw [outcome_read_strict] at read
      split at read
      · cases read
      · exact (Except.ok.inj read).symm
    | _ => cases read
  · rintro fields fields' rfl distinct perm strict
    exact (read_eq_of_perm strict distinct perm).symm

/-- A document that writes its sections in another order than the one in which they are
read. The section on checks is faulty behind a field that can be read, and so are the
rules. -/
def unorderedFields : List (Text × Json) :=
  [("rules", .obj [("ignoredImports", .str "*")]),
    ("analysis", .obj [
      ("detectUnusedExports", .bool false), ("coupling", .obj [("threshold", .int (-1))])]),
    ("scan", .obj [("dataExtensions", .arr [.str "yml"]), ("depth", .null)])]

theorem read_sectionwise_unordered :
    let document := Json.obj unorderedFields
    ∃ settings, (Settings.read false document).outcome = .ok settings ∧
      settings.scan.dataExtensions = [Text.ofString ".yml"] ∧ settings.checks = {} ∧
      Section.analysis.Faulty document ∧ Section.rules.Faulty document ∧
      settings.part .rules = Section.rules.default ∧
      Refusal document (.notCount "analysis.coupling.threshold") ∧
      ∀ strict, Settings.read strict (.obj unorderedFields.reverse) =
        Settings.read strict document := by
  intro document
  obtain ⟨settings, read, sections, -, refuses, -, -, order⟩ := read_sectionwise document
  have evaluated : (Settings.read false document).outcome.toOption.any (fun s =>
      s.scan.dataExtensions = [Text.ofString ".yml"] ∧ s.checks = {}) = true := by
    decide +kernel
  obtain ⟨settings', read', evaluated⟩ := exists_ok_of_any_toOption evaluated
  obtain rfl : settings = settings' := Except.ok.inj (read.symm.trans read')
  obtain ⟨extensions, checks⟩ := of_decide_eq_true evaluated
  have analysis : Section.analysis.Faulty document :=
    Section.isSome_fault?_iff.1 (by decide +kernel)
  have rules : Section.rules.Faulty document := Section.isSome_fault?_iff.1 (by decide +kernel)
  have byDefault : settings.part .rules = Section.rules.default := by
    obtain ⟨v, found, formless⟩ := rules
    rcases sections .rules with written | ⟨-, same⟩
    · exact absurd (written.form found) (formless _)
    · exact same
  have failed : (Settings.read true document).outcome =
      .error (.notCount "analysis.coupling.threshold") := rfl
  exact ⟨settings, read, extensions, checks, analysis, rules, byDefault, (refuses _).1 failed,
    order unorderedFields _ rfl (by decide) (List.reverse_perm _).symm⟩

end Settings

end ModuleAudit
