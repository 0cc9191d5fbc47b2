import ModuleAudit.Json.Display
import ModuleAudit.Path
import ModuleAudit.Record.Basic

/-!
# Reading module facts

Module facts arrive as JSON. A record is accepted when it has the shape that
the readers below require, and refused with its first fault otherwise; a refused
record never affects another one.

Some faults show the value they are about, and so does the form of an import that
is not written as a text. A value that cannot be shown there ends the reading: the
record is then neither accepted nor refused.

A place in an error is the module's path, followed by the import source or the
export name where the fault lies inside one.
-/

namespace ModuleAudit

/-- What is wrong at some place of a record. A value that is wrong is shown. -/
inductive RecordFault where
  | factsNotMapping
  | fileType (got : Text)
  | importsNotList
  | exportsNotList
  | importNotMapping
  | importWithoutSource
  | bindingsNotList
  | bindingNotMapping
  | bindingKind (got : Text)
  | importedNameNotText
  | localNameNotText
  | unnamedBinding
  | exportNotMapping
  | exportWithoutName
  | exportKind (got : Text) (name : Text)
  | line (got : Text)
deriving DecidableEq

inductive RecordError where
  | identity (got : Text)
  | within (place : Text) (fault : RecordFault)
deriving DecidableEq

/-- Why an entry gives no module: it is refused, or a value in it cannot be shown. -/
inductive RecordStop where
  | refused (error : RecordError)
  | unshown (error : ShowError)
deriving DecidableEq

def RecordFault.message : RecordFault → Text
  | .factsNotMapping => "module facts must be a mapping"
  | .fileType got => "unknown fileType " ++ got
  | .importsNotList => "imports must be a list"
  | .exportsNotList => "exports must be a list"
  | .importNotMapping => "import must be a mapping"
  | .importWithoutSource => "import without a source specifier"
  | .bindingsNotList => "specifiers must be a list"
  | .bindingNotMapping => "specifier must be a mapping"
  | .bindingKind got => "unknown specifier kind " ++ got
  | .importedNameNotText => "importedName must be a string"
  | .localNameNotText => "localName must be a string"
  | .unnamedBinding => "named specifier without a name"
  | .exportNotMapping => "export must be a mapping"
  | .exportWithoutName => "export without a name"
  | .exportKind got name => "unknown export kind " ++ got ++ " for '" ++ name ++ "'"
  | .line got => "line must be an integer, got " ++ got

def RecordError.message : RecordError → Text
  | .identity got => "module identity must be an absolute path, got " ++ got
  | .within place fault => place ++ ": " ++ fault.message

namespace Record

abbrev Result (α : Type) := Except RecordStop α

def refuse {α : Type} (place : Text) (fault : RecordFault) : Result α :=
  .error (.refused (.within place fault))

/-- Refuse a record for a value, with an error that shows the value. -/
def refuseShowing {α : Type} (l : Limits) (value : Json) (error : Text → RecordError) :
    Result α :=
  match value.shown l with
  | .ok got => .error (.refused (error got))
  | .error e => .error (.unshown e)

/-- The field under the first of two names that the object has; null without. -/
def fieldOr (value : Json) (name other : Text) : Json :=
  ((value.field? name).or (value.field? other)).getD .null

/-- The items of a list; what does not count as given is an empty list. -/
def itemsOf (value : Json) : Option (List Json) :=
  if value.isGiven then
    match value with
    | .arr items => some items
    | _ => none
  else some []

/-- A line number, which may be missing. -/
def readLine (l : Limits) (place : Text) : Json → Result (Option Int)
  | .null => .ok none
  | .int line => .ok (some line)
  | value => refuseShowing l value fun got => .within place (.line got)

/-- What an import binds, by its word. -/
def bindingKindOf? : Json → Option BindingKind
  | .str word =>
    if word = "named" then some .named
    else if word = "default" then some .default
    else if word = "namespace" then some .whole
    else none
  | _ => none

/-- A name, which may be missing. -/
def readName (place : Text) (fault : RecordFault) : Json → Result (Option Text)
  | .null => .ok none
  | .str name => .ok (some name)
  | _ => refuse place fault

def readBinding (l : Limits) (place : Text) (value : Json) : Result Binding :=
  match value with
  | .obj _ => do
    let rawKind := fieldOr value "kind" "type"
    match bindingKindOf? rawKind with
    | none => refuseShowing l rawKind fun got => .within place (.bindingKind got)
    | some kind =>
      let imported ← readName place .importedNameNotText (fieldOr value "importedName" "imported")
      let localName ← readName place .localNameNotText (fieldOr value "localName" "local")
      let shown := (given localName).or (given imported)
      if kind = .named ∧ shown = none then refuse place .unnamedBinding
      else .ok { kind, localName := shown.getD "*", importedName := imported }
  | _ => refuse place .bindingNotMapping

/-- The word for the form of an import. -/
def formOf (l : Limits) (value : Json) : Result Text :=
  if value.isGiven then (value.displayed l).mapError .unshown else .ok "import"

/-- One import statement of the module at `path`. -/
def readImport (l : Limits) (path : Text) (value : Json) : Result ImportStatement :=
  match value with
  | .obj _ =>
    match value.field? "source" with
    | some (.str source) =>
      if source.isEmpty then refuse path .importWithoutSource
      else
        let place := path ++ " (" ++ source ++ ")"
        match itemsOf (value.fieldOrNull "specifiers") with
        | none => refuse place .bindingsNotList
        | some items => do
          let line ← readLine l place (value.fieldOrNull "line")
          let bindings ← items.mapM (readBinding l place)
          let form ← formOf l (value.fieldOrNull "type")
          .ok { source, line, bindings, form }
    | _ => refuse path .importWithoutSource
  | _ => refuse path .importNotMapping

/-- How an export is declared. Without a word the name `default` decides. -/
def exportKindOf? (name : Text) : Json → Option ExportKind
  | .null => some (if name = "default" then .default else .named)
  | .str word =>
    if word = "named" then some .named
    else if word = "default" then some .default
    else if word = "re-export" then some .reExport
    else none
  | _ => none

/-- One export of the module at `path`. -/
def readExport (l : Limits) (path : Text) (value : Json) : Result ExportDecl :=
  match value with
  | .obj _ =>
    match value.field? "name" with
    | some (.str name) =>
      if name.isEmpty then refuse path .exportWithoutName
      else
        let rawKind := value.fieldOrNull "kind"
        match exportKindOf? name rawKind with
        | none => refuseShowing l rawKind fun got => .within path (.exportKind got name)
        | some kind => do
          let line ← readLine l (path ++ " (" ++ name ++ ")") (value.fieldOrNull "line")
          let source := match value.field? "source" with
            | some (.str source) => some source
            | _ => none
          .ok { name, kind, line, source }
    | _ => refuse path .exportWithoutName
  | _ => refuse path .exportNotMapping

/-- The kind of file, by its word. -/
def fileTypeOf? : Json → Option FileType
  | .str word =>
    if word = "code" then some .code
    else if word = "data" then some .data
    else if word = "css" then some .css
    else none
  | _ => none

/-- The facts about the module at `path`. -/
def readFacts (l : Limits) (path : Text) (value : Json) : Result ModuleFacts :=
  match value with
  | .obj _ =>
    let rawType := ((value.field? "fileType").or (value.field? "file_type")).getD (.str "code")
    match fileTypeOf? rawType with
    | none => refuseShowing l rawType fun got => .within path (.fileType got)
    | some fileType =>
      match itemsOf (value.fieldOrNull "imports") with
      | none => refuse path .importsNotList
      | some rawImports =>
        match itemsOf (value.fieldOrNull "exports") with
        | none => refuse path .exportsNotList
        | some rawExports => do
          let imports ← rawImports.mapM (readImport l path)
          let exports ← rawExports.mapM (readExport l path)
          .ok { fileType, imports, exports }
  | _ => refuse path .factsNotMapping

/-- The absolute path that identifies a module. -/
def readIdentity (l : Limits) : Json → Result Text
  | .str path =>
    if Path.isAbsolute path then .ok path else refuseShowing l (.str path) .identity
  | value => refuseShowing l value .identity

/-- One entry of a fact map. -/
def read (l : Limits) (key value : Json) : Result (Text × ModuleFacts) := do
  let path ← readIdentity l key
  let facts ← readFacts l path value
  .ok (path, facts)

end Record

end ModuleAudit
