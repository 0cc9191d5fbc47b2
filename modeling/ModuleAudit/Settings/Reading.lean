import ModuleAudit.Json.Basic
import ModuleAudit.Log
import ModuleAudit.Settings.Basic
import ModuleAudit.Text.Case

/-!
# Reading settings

Settings arrive as a JSON object with one field per section. A section is read
as a whole: it is either what the object says over the defaults, or, when one
of its fields is faulty, a fault. A lenient reader then keeps the defaults of
that section and goes on; a strict one stops.

Keys may be written in camel case. They are respelled before they are read, and
of two spellings of one key the later value counts.
-/

namespace ModuleAudit

/-- Why a section of the settings is refused. -/
inductive SettingsError where
  | documentNotMapping
  | notMapping (place : Text)
  | notTexts (place : Text)
  | notSwitch (place : Text)
  | notCount (place : Text)
  | notIgnoreTable (place : Text)
  | notWeightTable (place : Text)
  | notWeight (place : Text)
deriving DecidableEq, Repr

def SettingsError.message : SettingsError → Text
  | .documentNotMapping => "configuration must be a mapping"
  | .notMapping place => "'" ++ place ++ "' must be a mapping"
  | .notTexts place => "'" ++ place ++ "' must be a list of strings"
  | .notSwitch place => "'" ++ place ++ "' must be true or false"
  | .notCount place => "'" ++ place ++ "' must be an integer >= 0"
  | .notIgnoreTable place => "'" ++ place ++ "' must map path patterns to export patterns"
  | .notWeightTable place => "'" ++ place ++ "' must map reason tags to integer weights"
  | .notWeight place => "'" ++ place ++ "' must be an integer"

/-- The outcome of reading settings, with the lines logged on the way. The lines
stay when the reading fails. -/
structure SettingsReading (α : Type) where
  journal : List LogLine
  outcome : Except SettingsError α

namespace SettingsReading

variable {α β : Type}

instance : Monad SettingsReading where
  pure a := ⟨[], .ok a⟩
  bind r f :=
    match r.outcome with
    | .error e => ⟨r.journal, .error e⟩
    | .ok a => ⟨r.journal ++ (f a).journal, (f a).outcome⟩

/-- A value or fault that logs nothing. -/
def ofExcept (outcome : Except SettingsError α) : SettingsReading α := ⟨[], outcome⟩

def log (line : LogLine) : SettingsReading Unit := ⟨[line], .ok ()⟩

/-- Replace a fault by another reading. -/
def recover (r : SettingsReading α) (f : SettingsError → SettingsReading α) :
    SettingsReading α :=
  match r.outcome with
  | .error e => ⟨r.journal ++ (f e).journal, (f e).outcome⟩
  | .ok _ => r

end SettingsReading

namespace Settings

open SettingsReading

/-- The fields of an object under their respelled keys. -/
def expectMapping (place : Text) : Json → Except SettingsError (Table Text Json)
  | .obj fields => .ok (Table.ofList (fields.map fun f => (Text.snakeCase f.1, f.2)))
  | _ => .error (.notMapping place)

def text? : Json → Option Text
  | .str s => some s
  | _ => none

def expectTexts (place : Text) : Json → Except SettingsError (List Text)
  | .arr items =>
    match items.mapM text? with
    | some texts => .ok texts
    | none => .error (.notTexts place)
  | _ => .error (.notTexts place)

def expectSwitch (place : Text) : Json → Except SettingsError Bool
  | .bool b => .ok b
  | _ => .error (.notSwitch place)

def expectCount (place : Text) : Json → Except SettingsError Nat
  | .int (.ofNat n) => .ok n
  | _ => .error (.notCount place)

/-- Read what is written for a setting; where nothing is, it has its default. -/
def readSetting {α : Type} (reader : Json → Except SettingsError α) (default : α) :
    Option Json → Except SettingsError α
  | some value => reader value
  | none => .ok default

def dotted (extension : Text) : Text :=
  if Text.begins "." extension then extension else "." ++ extension

/-- Note a key that has no meaning. -/
def skipKey {α : Type} (place : Text) (settings : α) : SettingsReading α := do
  log (.debug .settings ("Ignoring unknown configuration key " ++ place))
  return settings

/-- Read one field of the section on scanning over what is read so far. -/
def readScanField (s : ScanSettings) (field : Text × Json) : SettingsReading ScanSettings :=
  let place := "scan." ++ field.1
  if field.1 = "extensions" then do
    let texts ← ofExcept (expectTexts place field.2)
    return { s with extensions := texts.map dotted }
  else if field.1 = "data_extensions" then do
    let texts ← ofExcept (expectTexts place field.2)
    return { s with dataExtensions := texts.map dotted }
  else if field.1 = "exclude" then do
    let texts ← ofExcept (expectTexts place field.2)
    return { s with exclude := texts }
  else if field.1 = "test_patterns" then do
    let texts ← ofExcept (expectTexts place field.2)
    return { s with testPatterns := texts }
  else if field.1 = "respect_gitignore" then do
    let switch ← ofExcept (expectSwitch place field.2)
    return { s with respectGitignore := switch }
  else if field.1 = "ignore_test_files" then do
    let switch ← ofExcept (expectSwitch place field.2)
    return { s with ignoreTestFiles := switch }
  else skipKey place s

def readScan (value : Json) : SettingsReading ScanSettings := do
  let fields ← ofExcept (expectMapping "scan" value)
  fields.entries.foldlM readScanField {}

/-- Read how coupling is measured: a switch, or an object of details. -/
def readCoupling (value : Json) : Except SettingsError CouplingSettings :=
  match value with
  | .bool enabled => .ok { enabled }
  | _ => do
    let fields ← expectMapping "analysis.coupling" value
    let enabled ←
      readSetting (expectSwitch "analysis.coupling.enabled") true (fields.get? "enabled")
    let threshold ←
      readSetting (expectCount "analysis.coupling.threshold") defaultThreshold
        (fields.get? "threshold")
    let excludePatterns ←
      readSetting (expectTexts "analysis.coupling.exclude_patterns") []
        (fields.get? "exclude_patterns")
    .ok { enabled, threshold, excludePatterns }

/-- Read one field of the section on checks over what is read so far. -/
def readChecksField (s : CheckSettings) (field : Text × Json) : SettingsReading CheckSettings :=
  let place := "analysis." ++ field.1
  if field.1 = "detect_circular_dependencies" then do
    let switch ← ofExcept (expectSwitch place field.2)
    return { s with circularDependencies := switch }
  else if field.1 = "detect_unused_exports" then do
    let switch ← ofExcept (expectSwitch place field.2)
    return { s with unusedExports := switch }
  else if field.1 = "detect_missing_exports" then do
    let switch ← ofExcept (expectSwitch place field.2)
    return { s with missingExports := switch }
  else if field.1 = "coupling" || field.1 = "detect_high_coupling" then do
    let coupling ← ofExcept (readCoupling field.2)
    return { s with coupling }
  else skipKey place s

def readChecks (value : Json) : SettingsReading CheckSettings := do
  let fields ← ofExcept (expectMapping "analysis" value)
  fields.entries.foldlM readChecksField {}

/-- Read the names that are ignored under each pattern for paths. The patterns
are kept as they are written. -/
def readIgnoredExports : Json → Except SettingsError (Table Text (List Text))
  | .obj fields => do
    let rows ← fields.mapM fun f => do
      let names ← expectTexts ("rules.ignored_exports." ++ f.1) f.2
      .ok (f.1, names)
    .ok (Table.ofList rows)
  | _ => .error (.notIgnoreTable "rules.ignored_exports")

def readRules (value : Json) : Except SettingsError Rules := do
  let fields ← expectMapping "rules" value
  let ignoredExports ← readSetting readIgnoredExports .empty (fields.get? "ignored_exports")
  let ignoredImports ←
    readSetting (expectTexts "rules.ignored_imports") [] (fields.get? "ignored_imports")
  let publicApiPaths ←
    readSetting (expectTexts "rules.public_api_paths") [] (fields.get? "public_api_paths")
  .ok { ignoredExports, ignoredImports, publicApiPaths }

def readWeight (place : Text) : Text × Json → Except SettingsError (Text × Int)
  | (name, .int weight) => .ok (name, weight)
  | (name, _) => .error (.notWeight (place ++ "." ++ name))

/-- Read weights over their defaults. -/
def readWeightTable (place : Text) (defaults : Table Text Int) :
    Json → Except SettingsError (Table Text Int)
  | .obj fields => do
    let rows ← fields.mapM (readWeight place)
    .ok (defaults.insertMany rows)
  | _ => .error (.notWeightTable place)

def readWeights (value : Json) : Except SettingsError Weights :=
  match value with
  | .obj _ => do
    let exports ←
      readSetting (readWeightTable "weights.exports" defaultExportWeights) defaultExportWeights
        (value.field? "exports")
    let imports ←
      readSetting (readWeightTable "weights.imports" defaultImportWeights) defaultImportWeights
        (value.field? "imports")
    .ok { exports, imports }
  | _ => .error (.notMapping "weights")

/-- Read a section of a document if it is there. A lenient reader puts the
defaults in the place of a faulty section. -/
def readSection {α : Type} (strict : Bool) (document : Json) (name : Text) (defaults : α)
    (reader : Json → SettingsReading α) : SettingsReading α :=
  match document.field? name with
  | none => pure defaults
  | some value =>
    if strict then reader value
    else (reader value).recover fun e => do
      log (.warning .settings
        ("Invalid '" ++ name ++ "' configuration, using defaults: " ++ e.message))
      return defaults

/-- Read all settings. Null and a missing document mean the defaults. -/
def read (strict : Bool) (document : Json) : SettingsReading Settings :=
  match document with
  | .null => pure {}
  | .obj _ => do
    let scan ← readSection strict document "scan" {} readScan
    let checks ← readSection strict document "analysis" {} readChecks
    let rules ← readSection strict document "rules" {} fun v => ofExcept (readRules v)
    let weights ← readSection strict document "weights" {} fun v => ofExcept (readWeights v)
    return { scan, checks, rules, weights }
  | value =>
    if strict then ofExcept (.error .documentNotMapping)
    else do
      log (.warning .settings
        ("Ignoring configuration of type " ++ value.typeName ++ ", using defaults"))
      return {}

end Settings

end ModuleAudit
