import ModuleAudit.DependencyGraph.Basic
import ModuleAudit.ExportUsage
import ModuleAudit.Resolver
import ModuleAudit.Settings.Basic
import ModuleAudit.Signal
import ModuleAudit.Text.Case
import ModuleAudit.Text.Matching

/-!
# Imports that lead nowhere

A relative import without a target and an import of a name that its target does
not export are judged by the same signals. Imports that a build step or a
platform provides are usually intended; near misses of existing names and
imports of build output usually are not, and those signals suggest a correction.
-/

namespace ModuleAudit

/-- A relative import whose target is not among the modules. -/
structure UnresolvedImport where
  importer : Text
  specifier : Text
  line : Option Int
deriving DecidableEq, Repr

/-- What the signals look at. The name is that of a missing export. -/
structure ImportSubject where
  importer : Text
  specifier : Text
  name : Option Text := none
  target : Option Text := none
deriving DecidableEq, Repr

def UnresolvedImport.subject (f : UnresolvedImport) : ImportSubject where
  importer := f.importer
  specifier := f.specifier

def MissingExport.subject (f : MissingExport) : ImportSubject where
  importer := f.importer
  specifier := f.specifier
  name := some f.name
  target := some f.target

/-- The signals about imports, in the order of their evaluation. -/
inductive ImportSignal where
  | ignoredByConfig
  | integrationTestPattern
  | buildTimeConstant
  | platformSpecific
  | optionalDependency
  | starReExportTarget
  | possibleTypo
  | improperBuildImport
  | missingExtension
deriving DecidableEq, Repr

namespace ImportSignal

def all : List ImportSignal :=
  [.ignoredByConfig, .integrationTestPattern, .buildTimeConstant, .platformSpecific,
    .optionalDependency, .starReExportTarget, .possibleTypo, .improperBuildImport,
    .missingExtension]

def name : ImportSignal → Text
  | .ignoredByConfig => "ignored-by-config"
  | .integrationTestPattern => "integration-test-pattern"
  | .buildTimeConstant => "build-time-constant"
  | .platformSpecific => "platform-specific"
  | .optionalDependency => "optional-dependency"
  | .starReExportTarget => "star-re-export-target"
  | .possibleTypo => "possible-typo"
  | .improperBuildImport => "improper-build-import"
  | .missingExtension => "missing-extension"

end ImportSignal

/-- What the signals about imports consult. -/
structure ImportClassifier where
  resolver : Option Resolver
  nodes : NodeMap
  ignoredImports : List Text
  weights : Table Text Int
  extensions : List Text

namespace ImportClassifier

/-- The edit distance up to which a name counts as a misspelling. -/
def maxTypoDistance : Nat := 2

/-- Specifiers of platform variants contain one of these. -/
def platformMarkers : List Text := [".ios", ".android", ".web", ".native", ".electron"]

/-- Packages that programs often do without. -/
def optionalPackages : List Text := ["redis", "mongodb", "pg", "mysql", "canvas"]

/-- The file names of integration tests contain one of these. -/
def integrationMarkers : List Text :=
  ["integration", "e2e", "end-to-end", "export-test", "build-test",
    "dist-test", "package-test", "publish-test"]

/-- The build directories that integration tests may import from. -/
def integrationDirectories : List Text := ["dist", "build", "lib", "es", "cjs"]

def buildDirectories : List Text := ["dist", "build", "lib", "es", "cjs", "out", ".next"]

/-- Texts that begin with one of these are replaced by a build step. -/
def buildTimeMarkers : List Text := ["process.env", "BUILD_", "WEBPACK_"]

/-- Why an import is expected, by the reason found first in this list. -/
def expectedReasons : List (Text × Text) :=
  [("ignored-by-config", "Expected - ignored by configuration"),
    ("build-time-constant", "Expected - resolved at build time"),
    ("platform-specific", "Expected - platform-specific import"),
    ("integration-test-pattern", "Expected - integration test importing built package"),
    ("optional-dependency", "Expected - optional dependency"),
    ("star-re-export-target", "Expected - target forwards names with export *")]

/-- A classifier. Without weights, or with an empty table, the default weights
are used. -/
def make (resolver : Option Resolver) (nodes : NodeMap) (rules : Rules)
    (weights : Table Text Int) (extensions : List Text) : ImportClassifier where
  resolver := resolver
  nodes := nodes
  ignoredImports := rules.ignoredImports
  weights := weightsOr defaultImportWeights weights
  extensions := extensions

/-- The first of the directories that a specifier walks through. -/
def directoryIn (specifier : Text) (directories : List Text) : Option Text :=
  directories.find? fun directory => Text.occurs ("/" ++ directory ++ "/") specifier

/-- Whether the importer is an integration test and the specifier names build
output. -/
def isIntegrationTest (s : ImportSubject) : Bool :=
  Text.occursAny integrationMarkers (Text.lower (Path.base s.importer)) &&
    (directoryIn s.specifier integrationDirectories).isSome

/-- Whether a text is capitals and underscores between two pairs of
underscores. -/
def isBuildConstant (text : Text) : Bool :=
  5 ≤ text.length && Text.begins "__" text && Text.ends "__" text &&
    text.all fun c => c.is Char.isUpper || c = '_'

/-- A text without a line end. -/
def chomp (text : Text) : Text :=
  if text.getLast? = some (.ofChar '\n') then text.dropLast else text

/-- Whether a name is provided by a build step. One line end behind a constant
is tolerated. -/
def isBuildTimeName (name : Text) : Bool :=
  isBuildConstant (chomp name) ||
    buildTimeMarkers.any fun marker => Text.begins marker name

/-- The name a subject asks for: that of the export, or the last part of the
specifier. -/
def nameOf (s : ImportSubject) : Text :=
  (given s.name).getD (Path.base (Path.trimSlashes s.specifier))

/-- Whether a part of the specifier is a package that may be missing. -/
def isOptional (s : ImportSubject) : Bool :=
  (Path.segments s.specifier).any fun segment => optionalPackages.contains (plainName segment)

def targetExports (c : ImportClassifier) (s : ImportSubject) : List ExportDecl :=
  match s.target.bind c.nodes.get? with
  | some node => node.exports
  | none => []

/-- The exported names near a name, in order and each once. -/
def similarExports (exports : List ExportDecl) (name : Text) : List Text :=
  let names := (exports.map ExportDecl.name).filter fun other => other ≠ name
  (Text.sort names.eraseDups).filter fun other =>
    Text.distance other name ≤ maxTypoDistance

def only? {α : Type} : List α → Option α
  | [a] => some a
  | _ => none

/-- The file name a specifier asks for, without its extension. -/
def wantedName (s : ImportSubject) : Text :=
  plainName (Path.base (Path.trimSlashes s.specifier))

/-- The modules other than the importer whose file name is near the one the
specifier asks for. -/
def similarModules (c : ImportClassifier) (s : ImportSubject) : List Text :=
  let wanted := wantedName s
  match c.resolver with
  | none => []
  | some r =>
    if [[], Path.here, Path.up].contains wanted then []
    else r.paths.filter fun path =>
      path ≠ s.importer && Text.distance (plainName (Path.base path)) wanted ≤ maxTypoDistance

/-- A specifier by which an importer reaches a module. -/
def specifierFor (path importer : Text) : Text :=
  let way := (Path.relative? path (Path.parent importer)).getD ""
  if Text.begins "../" way then way else "./" ++ way

/-- The one spelling that the subject probably meant. -/
def likelySpelling (c : ImportClassifier) (s : ImportSubject) : Option Text :=
  match given s.name with
  | some name => given (only? (similarExports (c.targetExports s) name))
  | none => (only? (c.similarModules s)).map fun path => specifierFor path s.importer

/-- Whether the only similar module has the empty path, to which no specifier
leads. -/
def meetsEmptyPath (c : ImportClassifier) (s : ImportSubject) : Bool :=
  (given s.name).isNone && c.similarModules s == [[]]

def detect (c : ImportClassifier) (signal : ImportSignal) (s : ImportSubject) : Option Hit :=
  match signal with
  | .ignoredByConfig => Hit.when (Glob.anyMatch c.ignoredImports s.specifier)
  | .integrationTestPattern =>
    if isIntegrationTest s then
      some { suggestion := some "Expected - integration test importing built package" }
    else none
  | .buildTimeConstant => Hit.when (isBuildTimeName (nameOf s))
  | .platformSpecific => Hit.when (Text.occursAny platformMarkers s.specifier)
  | .optionalDependency => Hit.when (isOptional s)
  | .starReExportTarget =>
    Hit.when ((given s.name).isSome && (c.targetExports s).any ExportDecl.isStar)
  | .possibleTypo =>
    (c.likelySpelling s).map fun spelling =>
      { suggestion := some ("Did you mean '" ++ spelling ++ "'?") }
  | .improperBuildImport =>
    if isIntegrationTest s then none
    else
      (directoryIn s.specifier buildDirectories).map fun directory =>
        { suggestion := some ("Import from source files instead of " ++ directory ++ "/") }
  | .missingExtension =>
    match c.extensions with
    | [] => none
    | extension :: _ =>
      if (given s.name).isNone && (Path.extension (Path.base s.specifier)).isEmpty then
        some { suggestion := some ("Try '" ++ s.specifier ++ extension ++ "'") }
      else none

def tests (c : ImportClassifier) : List (NamedTest ImportSubject) :=
  NamedTest.ofKinds ImportSignal.all ImportSignal.name c.detect

def signals (c : ImportClassifier) : List (Signal ImportSubject) :=
  NamedTest.weigh c.weights c.tests

def advice (e : Evaluation) (s : ImportSubject) : Text :=
  if e.score > 0 then (firstMatching e.reasons expectedReasons).getD "Likely intentional"
  else
    match e.corrections with
    | correction :: _ => correction
    | [] =>
      match given s.name with
      | some name => "Review needed - '" ++ name ++ "' is not exported by the target module"
      | none => "Review needed - check import path"

def classify (c : ImportClassifier) (s : ImportSubject) : Except VerdictError Verdict :=
  if c.meetsEmptyPath s then .error .emptyPath
  else
    let e := Evaluation.ofSignals c.signals s
    Verdict.ofEvaluation e (advice e s)

end ImportClassifier

end ModuleAudit
