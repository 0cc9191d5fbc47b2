import ModuleAudit.CommandLine.Arguments
import ModuleAudit.CommandLine.FileTree
import ModuleAudit.Json.Parser
import ModuleAudit.Json.Printer
import ModuleAudit.Report
import ModuleAudit.Settings.Reading

/-!
# A run of the command

A run reads a fact map, perhaps settings and a package manifest, analyses the
facts, and ends with an exit code, a failure, or a report to be saved. Files are
seen through a function that looks at paths, in any monad, so the same run serves
the file system and a file tree that is a value.

A fact map that cannot be read ends the run with code 1. Settings and a manifest
that cannot be opened or are not JSON are passed over; if they are not even text
the run fails. Lists and objects that are nested too deep are passed over nowhere.
-/

namespace ModuleAudit

/-- What a run takes from its surroundings. -/
structure Surroundings where
  cwd : Text
  input : Text := "module-map.json"
  output : Text := "dependency-analysis.json"
  level : Text := "INFO"
  time : Text
  limits : Limits := {}

inductive ContentError where
  | notText
  | notJson
  | longInteger (digits : Nat)
  | tooDeep (container : Json.Container)
deriving DecidableEq, Repr

inductive Document where
  | missing
  | refused (error : FileError)
  | faulty (error : ContentError)
  | value (json : Json)

def Document.ofLook (l : Limits) : FileLook → Document
  | .missing => .missing
  | .refused e => .refused e
  | .file content =>
    match String.fromUTF8? content with
    | none => .faulty .notText
    | some text =>
      match Json.parse l text with
      | .ok json => .value json
      | .error .malformed => .faulty .notJson
      | .error (.longInteger digits) => .faulty (.longInteger digits)
      | .error (.tooDeep container) => .faulty (.tooDeep container)

inductive Failure where
  | content (error : ContentError)
  | rootNotText (typeName : Text)
  | analysis (error : AnalysisError)
  | file (error : FileError) (path : Text)
deriving DecidableEq

/-- How a run ends. A report that is to be saved comes with the lines that are
logged once it has been. -/
inductive Ending where
  | exit (code : Nat)
  | fail (failure : Failure)
  | save (path : Text) (report : Json) (journal : List LogLine)

structure Outcome where
  journal : List LogLine
  ending : Ending

structure Wording where
  notText : Text
  notJson : Text

namespace ContentError

/-- The message about a fault in the content of a file. -/
def message (l : Limits) (wording : Wording) : ContentError → Text
  | .notText => wording.notText
  | .notJson => wording.notJson
  | .longInteger digits =>
    "Exceeds the limit (" ++ toString l.digits ++
      " digits) for integer string conversion: value has " ++ toString digits ++
      " digits; use sys.set_int_max_str_digits() to increase the limit"
  | .tooDeep container =>
    "maximum recursion depth exceeded while decoding a JSON " ++ container.name ++
      " from a unicode string"

end ContentError

def Failure.message (l : Limits) (wording : Wording) : Failure → Text
  | .content e => e.message l wording
  | .rootNotText typeName => "expected str, bytes or os.PathLike object, not " ++ typeName
  | .analysis e => e.message l
  | .file e path => e.message path

namespace Session

def levelOf (s : Surroundings) (a : Arguments) : LogLevel :=
  if a.verbose then .debug else .ofName s.level

/-- The names of settings files, in the order in which they are sought. -/
def settingsFiles : List Text :=
  ["modulerc.json", ".modulerc.json", ".modulerc", "module.config.json"]

/-- The fact map in a document and the root it gives: either the document itself,
or its field `modules` beside a field `root`. -/
def mapOf (document : Json) : Option (List (Text × Json) × Json) :=
  match document.field? "modules" with
  | some (.obj modules) => some (modules, document.fieldOrNull "root")
  | _ =>
    match document with
    | .obj modules => some (modules, .null)
    | _ => none

/-- The facts under absolute paths; relative ones are read from `base`. -/
def factsFrom (base : Text) (modules : List (Text × Json)) : FactMap :=
  FactMap.ofList (modules.map fun e =>
    (.str (if Path.isAbsolute e.1 then e.1 else Path.absolute base e.1), e.2))

/-- What is known once the fact map has been read. -/
structure Loaded where
  facts : FactMap
  root : Option Text

/-- Take the facts and the root from a fact-map document. A root on the command
line comes before one in the document. -/
def load (s : Surroundings) (root : Option Text) (modules : List (Text × Json))
    (written : Json) : Except Failure Loaded :=
  let root? : Except Failure (Option Text) :=
    match given root with
    | some root => .ok (some root)
    | none =>
      if written.isGiven then
        match written with
        | .str root => .ok (some root)
        | value => .error (.rootNotText value.typeName)
      else .ok none
  match root? with
  | .error failure => .error failure
  | .ok none => .ok { facts := factsFrom s.cwd modules, root := none }
  | .ok (some root) =>
    let base := Path.absolute s.cwd root
    .ok { facts := factsFrom base modules, root := some base }

/-- Where settings are sought: the given file, or the usual names in the root. -/
def settingsPaths (s : Surroundings) (a : Arguments) (root : Option Text) : List Text :=
  match given a.config with
  | some path => [path]
  | none => settingsFiles.map fun name => Path.join ((given root).getD s.cwd) name

def manifestPath (s : Surroundings) (a : Arguments) (root : Option Text) : Text :=
  let path := (given a.packageJson).getD (Path.join ((given root).getD s.cwd) "package.json")
  Path.absolute s.cwd path

/-- The settings in the first document that exists. -/
def settingsFrom (wording : Wording) (path : Text) (document : Document) :
    List LogLine × Except Failure Settings :=
  let unreadable (message : Text) : List LogLine × Except Failure Settings :=
    ([.error .commandLine ("Error parsing " ++ path ++ ": " ++ message),
      .info .commandLine "Using default configuration"], .ok {})
  match document with
  | .missing => ([.info .commandLine "No configuration file found, using defaults"], .ok {})
  | .refused e => unreadable (e.message path)
  | .faulty .notJson => unreadable wording.notJson
  | .faulty e => ([], .error (.content e))
  | .value json =>
    let reading := Settings.read false json
    (.info .commandLine ("Loaded configuration from " ++ path) :: reading.journal,
      .ok (reading.outcome.toOption.getD {}))

/-- The package manifest in a document, null without one. -/
def manifestFrom (wording : Wording) (path : Text) (document : Document) :
    List LogLine × Except Failure (Option Json) :=
  let unreadable (message : Text) : List LogLine × Except Failure (Option Json) :=
    ([.warning .commandLine ("Ignoring unreadable " ++ path ++ ": " ++ message)], .ok none)
  match document with
  | .missing => ([], .ok none)
  | .refused e => unreadable (e.message path)
  | .faulty .notJson => unreadable wording.notJson
  | .faulty e => ([], .error (.content e))
  | .value (.obj fields) => ([], .ok (some (.obj fields)))
  | .value _ => ([], .ok none)

/-- The first path under which something is found, with what it is. -/
def firstFound {m : Type → Type} [Monad m] (l : Limits) (look : Text → m FileLook) :
    List Text → m (Text × Document)
  | [] => return ("", .missing)
  | path :: rest => do
    match Document.ofLook l (← look path) with
    | .missing => firstFound l look rest
    | document => return (path, document)

/-- The last line of a run: what the report counts. -/
def countsLine (stats : AnalysisStats) : LogLine :=
  .info .commandLine (toString stats.circularDependencies ++ " circular dependencies, " ++
    toString stats.unusedExports ++ " unused exports, " ++
    toString stats.missingExports ++ " missing exports, " ++
    toString stats.unresolvedInternals ++ " unresolved imports, " ++
    toString stats.highCouplingModules ++ " highly coupled modules")

/-- A report as it is saved: with the time of the analysis in front. -/
def saved (time : Text) (report : AnalysisReport) : Json :=
  .obj (("analyzed", .str time) :: Json.fieldsOf report.toJson)

/-- Analyse facts for a project and say where the report goes. -/
def analyze (s : Surroundings) (a : Arguments) (input : Text) (project : Project)
    (facts : FactMap) : Outcome :=
  let output := a.output.getD s.output
  let journal :=
    .info .commandLine ("Analyzing " ++ toString facts.size ++ " modules from " ++ input) ::
      project.surveyJournal facts
  match project.analyze facts with
  | .error e => { journal, ending := .fail (.analysis e) }
  | .ok report =>
    { journal := journal ++ project.reportJournal facts report
      ending := .save output (saved s.time report)
        [.info .commandLine ("Wrote dependency analysis to: " ++ output), countsLine report.stats] }

def runLoaded {m : Type → Type} [Monad m] (look : Text → m FileLook) (wording : Wording)
    (s : Surroundings) (a : Arguments) (input : Text) (loaded : Loaded) : m Outcome := do
  let (path, document) ← firstFound s.limits look (settingsPaths s a loaded.root)
  match settingsFrom wording path document with
  | (settingsLines, .error failure) => return { journal := settingsLines, ending := .fail failure }
  | (settingsLines, .ok settings) =>
    let path := manifestPath s a loaded.root
    match manifestFrom wording path (Document.ofLook s.limits (← look path)) with
    | (manifestLines, .error failure) =>
      return { journal := settingsLines ++ manifestLines, ending := .fail failure }
    | (manifestLines, .ok manifest) =>
      let root := loaded.root.or (manifest.map fun _ => Path.parent path)
      let project : Project :=
        { settings, root, manifest := manifest.getD .null, limits := s.limits }
      let outcome := analyze s a input project loaded.facts
      return { outcome with journal := settingsLines ++ manifestLines ++ outcome.journal }

def run {m : Type → Type} [Monad m] (look : Text → m FileLook) (wording : Wording)
    (s : Surroundings) (a : Arguments) : m Outcome := do
  let input := a.input.getD s.input
  let stop (message : Text) : Outcome :=
    { journal := [.error .commandLine message], ending := .exit 1 }
  let unreadable (message : Text) : Outcome := stop ("Could not read module map: " ++ message)
  match Document.ofLook s.limits (← look input) with
  | .missing => return stop ("Input file not found: " ++ input)
  | .refused e => return unreadable (e.message input)
  | .faulty (.tooDeep container) =>
    return { journal := [], ending := .fail (.content (.tooDeep container)) }
  | .faulty e => return unreadable (e.message s.limits wording)
  | .value document =>
    match mapOf document with
    | none => return unreadable (input ++ " does not contain a module map")
    | some (modules, written) =>
      match load s a.root modules written with
      | .error failure => return { journal := [], ending := .fail failure }
      | .ok loaded => runLoaded look wording s a input loaded

/-- The lines that are shown at a level, each on a line of its own. -/
def shown (level : LogLevel) (journal : List LogLine) : Text :=
  (journal.filter fun line => line.isShownAt level).flatMap fun line => line.text ++ "\n"

def refusalLine (r : Refusal) : Text := "module-analyzer: error: " ++ r.message

/-- What a run in a file tree leaves behind. -/
structure Aftermath where
  journal : List LogLine
  result : Except Failure Nat
  tree : FileTree

/-- Run the command in a file tree and save the report there. -/
def runIn (tree : FileTree) (cwd : Place) (wording : Wording) (s : Surroundings)
    (a : Arguments) : Aftermath :=
  let outcome := Id.run (run (fun path => tree.look cwd path) wording s a)
  match outcome.ending with
  | .exit code => { journal := outcome.journal, result := .ok code, tree }
  | .fail failure => { journal := outcome.journal, result := .error failure, tree }
  | .save path report after =>
    match tree.write cwd path report.render.toUTF8 with
    | .ok tree => { journal := outcome.journal ++ after, result := .ok 0, tree }
    | .error e => { journal := outcome.journal, result := .error (.file e path), tree }

end Session

end ModuleAudit
