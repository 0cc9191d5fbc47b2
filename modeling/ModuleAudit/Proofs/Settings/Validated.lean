import ModuleAudit.Proofs.Classify.Audit
import ModuleAudit.Proofs.Settings.Sections

/-!
# Validated settings

Whatever a document says, an analysis only sees settings that make sense. A lenient
reader puts a default wherever it finds nothing, and the defaults of a whole section
wherever it finds something of another form. What it reads is therefore either a default
or what a value of the right form says that stands in the document: an integer that is
not negative for a threshold, nothing but texts for a list.

The weights are written over their defaults, so that a table of weights has all default
tags and is never empty. A classifier takes such a table as it is, and each of its signals
finds its weight there.
-/

namespace ModuleAudit

/-- Whether a value stands somewhere in a document. -/
inductive Json.Occurs (v : Json) : Json → Prop
  | here : Occurs v v
  | item {items : List Json} {item : Json} (listed : item ∈ items) (inside : Occurs v item) :
      Occurs v (.arr items)
  | field {fields : List (Text × Json)} {f : Text × Json} (listed : f ∈ fields)
      (inside : Occurs v f.2) : Occurs v (.obj fields)

theorem Json.Occurs.trans {v w document : Json} (inner : v.Occurs w) (outer : w.Occurs document) :
    v.Occurs document := by
  induction outer with
  | here => exact inner
  | item listed _ ih => exact .item listed ih
  | field listed _ ih => exact .field listed ih

theorem Json.occurs_of_field? {v document : Json} {name : Text}
    (found : document.field? name = some v) : v.Occurs document := by
  have listed (fields : List (Text × Json)) (found : Table.find name fields = some v) :
      (name, v) ∈ fields := by
    induction fields with
    | nil => cases found
    | cons f fields ih =>
      rw [Table.find] at found
      split_ifs at found with same
      · cases found
        exact same ▸ List.mem_cons_self
      · exact List.mem_cons_of_mem _ (ih found)
  cases document with
  | obj fields => exact .field (listed fields found) .here
  | _ => cases found

namespace Settings

/-! ## Settings and where they come from -/

/-- Whether something is a default, or what a value of its form in a document says. -/
def Provided {α : Type} (Form : Json → α → Prop) (document : Json) (default a : α) : Prop :=
  a = default ∨ ∃ v, v.Occurs document ∧ Form v a

variable {document : Json}

theorem IsMapping.occurs {v w : Json} {t : Table Text Json} {key : Text} (mapping : IsMapping v t)
    (found : t.get? key = some w) : w.Occurs v := by
  obtain ⟨fields, rfl, rfl⟩ := mapping
  obtain ⟨f, listed, same⟩ := List.mem_map.1 (Table.mem_of_get?_ofList found)
  obtain ⟨-, rfl⟩ := Prod.mk.inj same
  exact .field listed .here

theorem provided_of_setting {α : Type} {Form : Json → α → Prop} {default a : α}
    {written : Option Json} (inside : ∀ v, written = some v → v.Occurs document)
    (setting : Setting Form default written a) : Provided Form document default a := by
  cases written with
  | none => exact .inl setting
  | some v => exact .inr ⟨v, inside v rfl, setting⟩

/-- A setting of a section that is provided is itself provided. -/
theorem Provided.setting {σ α : Type} {Written : Table Text Json → σ → Prop} {start s : σ}
    {Form : Json → α → Prop} {get : σ → α} {key : Text}
    (provided : Provided (fun v s => ∃ t, IsMapping v t ∧ Written t s) document start s)
    (setting : ∀ {t}, Written t s → Setting Form (get start) (t.get? key) (get s)) :
    Provided Form document (get start) (get s) := by
  rcases provided with rfl | ⟨v, inside, t, mapping, written⟩
  · exact .inl rfl
  · apply provided_of_setting _ (setting written)
    intro w found
    exact (mapping.occurs found).trans inside

/-- A section that is read leniently is the default one or stands in the document. -/
theorem Section.provided_lenient (document : Json) (s : Section) :
    Provided s.WrittenAs document s.default (s.lenient document) := by
  rcases s.lenient_cases document with setting | ⟨-, byDefault⟩
  · exact provided_of_setting (fun v => Json.occurs_of_field?) setting
  · exact .inl byDefault

theorem provided_coupling {s : CheckSettings}
    (provided : Provided CheckSettings.WrittenAs document {} s) :
    Provided CouplingSettings.WrittenAs document {} s.coupling := by
  rcases provided with rfl | ⟨v, inside, t, mapping, written⟩
  · exact .inl rfl
  · apply provided_of_setting _ written.coupling
    intro w last
    obtain ⟨e, listed, rfl⟩ := List.mem_map.1 (List.mem_of_getLast? last)
    have found := Table.get?_of_mem_entries (List.mem_of_mem_filter listed)
    exact (mapping.occurs found).trans inside

/-- The details of coupling are provided, or there is only a switch. -/
theorem provided_detail {s : CouplingSettings} {α : Type} {Form : Json → α → Prop}
    {get : CouplingSettings → α} {key : Text}
    (provided : Provided CouplingSettings.WrittenAs document {} s)
    (switch : ∀ enabled, get { enabled } = get {})
    (setting : ∀ {t}, s.WrittenIn t → Setting Form (get {}) (t.get? key) (get s)) :
    Provided Form document (get {}) (get s) := by
  rcases provided with rfl | ⟨v, inside, ⟨enabled, -, rfl⟩ | ⟨t, mapping, written⟩⟩
  · exact .inl rfl
  · exact .inl (switch enabled)
  · exact Provided.setting (.inr ⟨v, inside, t, mapping, written⟩) setting

/-- Settings as an analysis relies on them. -/
structure Validated (document : Json) (s : Settings) : Prop where
  dotted : ∀ extension ∈ s.scan.extensions ++ s.scan.dataExtensions,
    Text.begins "." extension = true
  extensions : Provided IsExtensions document defaultExtensions s.scan.extensions
  dataExtensions : Provided IsExtensions document defaultDataExtensions s.scan.dataExtensions
  exclude : Provided IsTexts document ({} : ScanSettings).exclude s.scan.exclude
  testPatterns : Provided IsTexts document ({} : ScanSettings).testPatterns s.scan.testPatterns
  threshold : Provided IsCount document defaultThreshold s.checks.coupling.threshold
  excludePatterns : Provided IsTexts document [] s.checks.coupling.excludePatterns
  ignoredExports : ∀ row ∈ s.rules.ignoredExports.entries, ∃ v, v.Occurs document ∧ IsTexts v row.2
  ignoredImports : Provided IsTexts document [] s.rules.ignoredImports
  publicApiPaths : Provided IsTexts document [] s.rules.publicApiPaths

theorem begins_dotted (extension : Text) : Text.begins "." (dotted extension) = true := by
  unfold dotted
  split_ifs with begins
  · exact begins
  · exact Text.begins_append _ _

theorem dotted_of_provided {default extensions : List Text}
    (provided : Provided IsExtensions document default extensions)
    (byDefault : ∀ extension ∈ default, Text.begins "." extension = true) :
    ∀ extension ∈ extensions, Text.begins "." extension = true := by
  rcases provided with rfl | ⟨v, -, texts, -, rfl⟩
  · exact byDefault
  · intro extension listed
    obtain ⟨text, -, rfl⟩ := List.mem_map.1 listed
    exact begins_dotted text

theorem occurs_of_ignoredExports {table : Table Text (List Text)}
    (provided : Provided IsIgnoreTable document .empty table) :
    ∀ row ∈ table.entries, ∃ v, v.Occurs document ∧ IsTexts v row.2 := by
  intro row listed
  rcases provided with rfl | ⟨v, inside, rows, rfl, rfl⟩
  · cases listed
  · have written := Table.mem_of_get?_ofList (Table.get?_of_mem_entries listed)
    exact ⟨_, .trans (.field (List.mem_map_of_mem written) .here) inside, rfl⟩

theorem validated_lenient (document : Json) : Validated document (lenient document) := by
  have scan : Provided ScanSettings.WrittenAs document {} (lenient document).scan :=
    Section.scan.provided_lenient document
  have checks : Provided CheckSettings.WrittenAs document {} (lenient document).checks :=
    Section.analysis.provided_lenient document
  have rules : Provided Rules.WrittenAs document {} (lenient document).rules :=
    Section.rules.provided_lenient document
  have coupling := provided_coupling checks
  have extensions := scan.setting fun written => written.extensions
  have dataExtensions := scan.setting fun written => written.dataExtensions
  exact
    { dotted := by
        intro extension listed
        rcases List.mem_append.1 listed with code | data
        · exact dotted_of_provided extensions (by decide) extension code
        · exact dotted_of_provided dataExtensions (by decide) extension data
      extensions
      dataExtensions
      exclude := scan.setting fun written => written.exclude
      testPatterns := scan.setting fun written => written.testPatterns
      threshold := provided_detail coupling (fun _ => rfl) fun written => written.threshold
      excludePatterns :=
        provided_detail coupling (fun _ => rfl) fun written => written.excludePatterns
      ignoredExports :=
        occurs_of_ignoredExports (rules.setting fun written => written.ignoredExports)
      ignoredImports := rules.setting fun written => written.ignoredImports
      publicApiPaths := rules.setting fun written => written.publicApiPaths }

/-! ## Weights -/

def int? : Json → Option Int
  | .int i => some i
  | _ => none

/-- The weight that a document writes for a tag, in one of the tables of its section on
weights. Of several fields with one name the last counts. -/
def writtenWeight? (document : Json) (key tag : Text) : Option Int :=
  match (document.field? "weights").bind fun v => v.field? key with
  | some (.obj fields) => ((Table.ofList fields).get? tag).bind int?
  | _ => none

/-- Whether a table has the weights that a document writes over the default ones, or just
these if the section on weights is faulty. -/
structure WrittenOver (document : Json) (key : Text) (defaults table : Table Text Int) : Prop where
  complete : ∀ tag ∈ defaults.keys, ∃ weight, table.get? tag = some weight
  written : ¬ Section.weights.Faulty document →
    ∀ tag, table.get? tag = (writtenWeight? document key tag).or (defaults.get? tag)
  faulty : Section.weights.Faulty document → table = defaults

/-- Weights that are written as integers are the last ones written. -/
theorem get?_rows_bind_int? (rows : List (Text × Int)) (tag : Text) :
    ((Table.ofList (rows.map fun row => (row.1, Json.int row.2))).get? tag).bind int? =
      (rows.reverse.find? fun row => row.1 = tag).map Prod.snd := by
  rw [Table.get?_ofList, ← List.map_reverse, List.find?_map]
  show (((rows.reverse.find? fun row => row.1 = tag).map _).map Prod.snd).bind int? = _
  cases rows.reverse.find? fun row => row.1 = tag <;> rfl

theorem get?_of_writtenAs {v : Json} {key tag : Text} {defaults table : Table Text Int}
    (found : document.field? "weights" = some v)
    (setting : Setting (IsWeightTable defaults) defaults (v.field? key) table) :
    table.get? tag = (writtenWeight? document key tag).or (defaults.get? tag) := by
  rw [writtenWeight?, found, Option.bind_some]
  cases written : v.field? key with
  | none =>
    rw [written] at setting
    obtain rfl : table = defaults := setting
    rfl
  | some u =>
    obtain ⟨rows, rfl, rfl⟩ := setting.form written
    show _ = (((Table.ofList _).get? tag).bind int?).or _
    rw [get?_rows_bind_int?, Table.get?_insertMany]

/-- One of the two tables of weights, with its place in the section and its defaults. -/
theorem writtenOver_lenient {key : Text} {get : Weights → Table Text Int}
    (setting : ∀ {v w}, Weights.WrittenAs v w →
      Setting (IsWeightTable (get {})) (get {}) (v.field? key) (get w)) :
    WrittenOver document key (get {}) (get (lenient document).weights) := by
  have faulty (faulty : Section.weights.Faulty document) :
      get (lenient document).weights = get {} :=
    congrArg get (Section.lenient_of_faulty faulty)
  have written (sound : ¬ Section.weights.Faulty document) (tag : Text) :
      (get (lenient document).weights).get? tag =
        (writtenWeight? document key tag).or ((get {}).get? tag) := by
    have read :
        Setting Weights.WrittenAs {} (document.field? "weights") (lenient document).weights :=
      Section.setting_of_not_faulty sound
    cases found : document.field? "weights" with
    | some v => exact get?_of_writtenAs found (setting (read.form found))
    | none =>
      rw [found] at read
      have byDefault : (lenient document).weights = {} := read
      rw [byDefault, writtenWeight?, found]
      rfl
  refine ⟨?_, written, faulty⟩
  intro tag known
  obtain ⟨weight, found⟩ := Option.isSome_iff_exists.1 (((get {}).isSome_get? tag).2 known)
  by_cases sound : Section.weights.Faulty document
  · exact ⟨weight, by rw [faulty sound, found]⟩
  · rw [written sound, found]
    cases writtenWeight? document key tag with
    | none => exact ⟨weight, rfl⟩
    | some own => exact ⟨own, rfl⟩

/-! ## Classifiers -/

theorem name_mem_defaultExportWeights (signal : ExportSignal) :
    signal.name ∈ defaultExportWeights.keys := by
  cases signal <;> decide

theorem name_mem_defaultImportWeights (signal : ImportSignal) :
    signal.name ∈ defaultImportWeights.keys := by
  cases signal <;> decide

namespace WrittenOver

variable {key : Text} {defaults table : Table Text Int}
  (merged : WrittenOver document key defaults table)

include merged

theorem entries_ne_nil {tag : Text} (known : tag ∈ defaults.keys) : table.entries ≠ [] := by
  obtain ⟨weight, found⟩ := merged.complete tag known
  exact List.ne_nil_of_mem ((table.mem_entries_iff (tag, weight)).2 found)

/-- Signals that are named by default tags find their weights in the table. -/
theorem get?_of_mem_weigh {σ : Type} {tests : List (NamedTest σ)}
    (named : ∀ t ∈ tests, t.1 ∈ defaults.keys) {signal : Signal σ}
    (listed : signal ∈ NamedTest.weigh table tests) :
    table.get? signal.name = some signal.weight := by
  obtain ⟨t, known, rfl⟩ := List.mem_map.1 listed
  obtain ⟨weight, found⟩ := merged.complete t.1 (named t known)
  show table.get? t.1 = some (weightOf table t.1)
  rw [weightOf, found]
  rfl

end WrittenOver

/-- An analysis only sees validated settings. Every document has settings when it is read
leniently: extensions with a dot, a threshold that is not negative, lists of texts, and
tables of weights with all default tags, where a tag has the weight that the document writes
for it or else its default. Classifiers that are made from these settings take the tables as
they are and find the weights of all their signals there. -/
theorem read_validated (document : Json) :
    ∃ settings, (Settings.read false document).outcome = .ok settings ∧
      Validated document settings ∧
      WrittenOver document "exports" defaultExportWeights settings.weights.exports ∧
      WrittenOver document "imports" defaultImportWeights settings.weights.imports ∧
      (∀ root manifest,
        let c := ExportClassifier.make root manifest settings.rules settings.weights.exports
        c.weights = settings.weights.exports ∧
          ∀ signal ∈ c.signals, settings.weights.exports.get? signal.name = some signal.weight) ∧
      ∀ resolver nodes,
        let c := ImportClassifier.make resolver nodes settings.rules settings.weights.imports
          settings.scan.extensions
        c.weights = settings.weights.imports ∧
          ∀ signal ∈ c.signals, settings.weights.imports.get? signal.name = some signal.weight := by
  have exports : WrittenOver document "exports" defaultExportWeights
      (lenient document).weights.exports :=
    writtenOver_lenient fun written => written.exports
  have imports : WrittenOver document "imports" defaultImportWeights
      (lenient document).weights.imports :=
    writtenOver_lenient fun written => written.imports
  refine ⟨lenient document, outcome_read_lenient document, validated_lenient document, exports,
    imports, ?_, ?_⟩
  · intro root manifest c
    have weights : c.weights = (lenient document).weights.exports :=
      weightsOr_of_ne_nil
        (exports.entries_ne_nil (name_mem_defaultExportWeights .frameworkPattern))
    refine ⟨weights, fun signal listed => ?_⟩
    rw [ExportClassifier.signals, weights] at listed
    apply exports.get?_of_mem_weigh _ listed
    intro t known
    obtain ⟨signal, -, rfl⟩ := List.mem_map.1 known
    exact name_mem_defaultExportWeights signal
  · intro resolver nodes c
    have weights : c.weights = (lenient document).weights.imports :=
      weightsOr_of_ne_nil
        (imports.entries_ne_nil (name_mem_defaultImportWeights .possibleTypo))
    refine ⟨weights, fun signal listed => ?_⟩
    rw [ImportClassifier.signals, weights] at listed
    apply imports.get?_of_mem_weigh _ listed
    intro t known
    obtain ⟨signal, -, rfl⟩ := List.mem_map.1 known
    exact name_mem_defaultImportWeights signal

/-- A document with extensions that lack a dot, two spellings of how coupling is measured,
a faulty section on rules, and weights for a signal and for a tag of its own. -/
def mixedDocument : Json := .obj
  [("scan", .obj [("extensions", .arr [.str "js", .str ".ts"])]),
    ("analysis", .obj
      [("detectHighCoupling", .bool false), ("coupling", .obj [("threshold", .int 3)])]),
    ("rules", .obj [("ignored_exports", .arr [])]),
    ("weights", .obj [("exports", .obj [("private-naming", .int (-3)), ("own-tag", .int 7)])])]

/-- The mixed document has its own weights, and a document with a list for its weights has
the default ones. -/
theorem read_validated_mixed :
    (∃ settings, (Settings.read false mixedDocument).outcome = .ok settings ∧
      settings.scan.extensions = [Text.ofString ".js", Text.ofString ".ts"] ∧
      settings.checks.coupling.threshold = 3 ∧ Validated mixedDocument settings ∧
      ¬ Section.weights.Faulty mixedDocument ∧
      settings.weights.exports.get? "private-naming" = some (-3) ∧
      settings.weights.exports.get? "own-tag" = some 7 ∧
      settings.weights.exports.get? "index-file" = some 8 ∧
      settings.weights.imports.get? "possible-typo" = some (-10) ∧
      let c := ExportClassifier.make none .null settings.rules settings.weights.exports
      c.weights = settings.weights.exports ∧
        ∃ signal ∈ c.signals, signal.name = "private-naming" ∧ signal.weight = -3) ∧
    let faulty : Json := .obj [("weights", .arr [])]
    ∃ settings, (Settings.read false faulty).outcome = .ok settings ∧
      Section.weights.Faulty faulty ∧ settings.weights.exports = defaultExportWeights ∧
      settings.weights.imports = defaultImportWeights ∧
      let c := ImportClassifier.make none .empty settings.rules settings.weights.imports
        settings.scan.extensions
      ∃ signal ∈ c.signals, signal.name = "possible-typo" ∧
        settings.weights.imports.get? "possible-typo" = some signal.weight := by
  constructor
  · obtain ⟨settings, read, validated, exports, imports, forExports, -⟩ :=
      read_validated mixedDocument
    have evaluated : (Settings.read false mixedDocument).outcome.toOption.any (fun s =>
        s.scan.extensions = [Text.ofString ".js", Text.ofString ".ts"] ∧
          s.checks.coupling.threshold = 3) = true := by
      decide +kernel
    obtain ⟨settings', read', evaluated⟩ := exists_ok_of_any_toOption evaluated
    obtain rfl : settings = settings' := Except.ok.inj (read.symm.trans read')
    obtain ⟨extensions, threshold⟩ := of_decide_eq_true evaluated
    have sound : ¬ Section.weights.Faulty mixedDocument := by
      rw [← Section.isSome_fault?_iff]
      decide +kernel
    have naming : settings.weights.exports.get? "private-naming" = some (-3) := by
      rw [exports.written sound]
      decide +kernel
    obtain ⟨weights, weighs⟩ := forExports none .null
    refine ⟨settings, read, extensions, threshold, validated, sound, naming, ?_, ?_, ?_, weights,
      ?_⟩
    · rw [exports.written sound]
      decide +kernel
    · rw [exports.written sound]
      decide +kernel
    · rw [imports.written sound]
      decide +kernel
    · let c := ExportClassifier.make none .null settings.rules settings.weights.exports
      have known : ExportSignal.privateNaming ∈ ExportSignal.all := by decide
      have listed := NamedTest.mem_weigh_ofKinds known ExportSignal.name c.weights c.detect
      exact ⟨_, listed, rfl, Option.some.inj ((weighs _ listed).symm.trans naming)⟩
  · intro document
    obtain ⟨settings, read, -, exports, imports, -, forImports⟩ := read_validated document
    have faulty : Section.weights.Faulty document := by
      rw [← Section.isSome_fault?_iff]
      decide +kernel
    obtain ⟨-, weighs⟩ := forImports none .empty
    let c := ImportClassifier.make none .empty settings.rules settings.weights.imports
      settings.scan.extensions
    have listed := NamedTest.mem_weigh_ofKinds (ImportSignal.mem_all .possibleTypo)
      ImportSignal.name c.weights c.detect
    exact ⟨settings, read, faulty, exports.faulty faulty, imports.faulty faulty, _, listed, rfl,
      weighs _ listed⟩

end Settings

end ModuleAudit
