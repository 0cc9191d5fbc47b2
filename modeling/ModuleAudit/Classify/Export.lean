import ModuleAudit.ExportUsage
import ModuleAudit.Json.Basic
import ModuleAudit.Path
import ModuleAudit.Settings.Basic
import ModuleAudit.Signal
import ModuleAudit.Text.Case
import ModuleAudit.Text.Matching
import ModuleAudit.Text.Words

/-!
# Unused exports

An export that nothing in the project uses may still be wanted: it belongs to an
entry point, a framework calls it, a rule exempts it. Each such circumstance is
a signal, and so are the marks of dead code.
-/

namespace ModuleAudit

/-- The signals about unused exports, in the order of their evaluation. -/
inductive ExportSignal where
  | ignoredByConfig
  | publicApiPath
  | entryPointFile
  | indexFile
  | configFile
  | frameworkPattern
  | lifecycleMethod
  | testUtility
  | demoOrExampleFile
  | deprecatedPattern
  | privateNaming
deriving DecidableEq, Repr

namespace ExportSignal

def all : List ExportSignal :=
  [.ignoredByConfig, .publicApiPath, .entryPointFile, .indexFile, .configFile,
    .frameworkPattern, .lifecycleMethod, .testUtility, .demoOrExampleFile,
    .deprecatedPattern, .privateNaming]

def name : ExportSignal → Text
  | .ignoredByConfig => "ignored-by-config"
  | .publicApiPath => "public-api-path"
  | .entryPointFile => "entry-point-file"
  | .indexFile => "index-file"
  | .configFile => "config-file"
  | .frameworkPattern => "framework-pattern"
  | .lifecycleMethod => "lifecycle-method"
  | .testUtility => "test-utility"
  | .demoOrExampleFile => "demo-or-example-file"
  | .deprecatedPattern => "deprecated-pattern"
  | .privateNaming => "private-naming"

end ExportSignal

inductive Framework where
  | next
  | storybook
  | jest
  | vue
  | react
deriving DecidableEq, Repr

namespace Framework

/-- All frameworks; the first that fits counts. -/
def all : List Framework := [.next, .storybook, .jest, .vue, .react]

def name : Framework → Text
  | .next => "next"
  | .storybook => "storybook"
  | .jest => "jest"
  | .vue => "vue"
  | .react => "react"

/-- What the path of a module of the framework contains. -/
def markers : Framework → List Text
  | .next => ["/pages/api/", "/pages/", "/app/"]
  | .storybook => [".stories."]
  | .jest => [".test.", ".spec.", "/__tests__/"]
  | .vue => [".vue"]
  | .react => ["/components/", ".jsx", ".tsx"]

end Framework

namespace EntryPoint

def indexFiles : List Text :=
  ["index.js", "index.jsx", "index.ts", "index.tsx", "index.mjs", "index.cjs"]

/-- A path without a `./` in front. -/
def plainPath (path : Text) : Text :=
  if Text.begins "./" path then path.drop 2 else path

mutual

/-- Every text inside a value. -/
def textsOf : Json → List Text
  | .str s => [s]
  | .arr items => textsOfItems items
  | .obj fields => textsOfFields fields
  | _ => []

def textsOfItems : List Json → List Text
  | [] => []
  | item :: rest => textsOf item ++ textsOfItems rest

def textsOfFields : List (Text × Json) → List Text
  | [] => []
  | (_, value) :: rest => textsOf value ++ textsOfFields rest

end

mutual

/-- The levels that a search for texts in a value goes down. Every value but a text
takes a level. -/
def levels : Json → Nat
  | .str _ => 0
  | .arr items => levelsOfItems items + 1
  | .obj fields => levelsOfFields fields + 1
  | _ => 1

def levelsOfItems : List Json → Nat
  | [] => 0
  | item :: rest => max (levels item) (levelsOfItems rest)

def levelsOfFields : List (Text × Json) → Nat
  | [] => 0
  | (_, value) :: rest => max (levels value) (levelsOfFields rest)

end

/-- The fields of a package manifest that name entry points. -/
def fields : List Text := ["main", "module", "browser", "bin", "exports"]

/-- Whether a manifest can be searched for entry points. One that does not count as
given is not searched. -/
def canSearch (l : Limits) (manifest : Json) : Bool :=
  !manifest.isGiven || fields.all fun name => levels (manifest.fieldOrNull name) ≤ l.searching

/-- The files that a package manifest names as entry points, in order and each
once. -/
def ofManifest (manifest : Json) : List Text :=
  let texts := fields.flatMap fun name => textsOf (manifest.fieldOrNull name)
  Text.sort (texts.map plainPath).eraseDups

end EntryPoint

/-- What the signals about unused exports consult. -/
structure ExportClassifier where
  root : Option Text
  entryPoints : List Text
  rules : Rules
  weights : Table Text Int

namespace ExportClassifier

/-- File names of configuration for tools contain one of these. -/
def configFileMarkers : List Text :=
  ["eslint.config.", ".eslintrc.", "jest.config.", "jest.setup.", "webpack.config.",
    "rollup.config.", "vite.config.", "tsconfig.", "babel.config.", ".babelrc.",
    "prettier.config.", ".prettierrc.", "postcss.config.", "tailwind.config.",
    "next.config.", "nuxt.config.", "vue.config.", "svelte.config.",
    "playwright.config.", "vitest.config.", "cypress.config.",
    ".config.js", ".config.ts", ".config.mjs", "config.js", "config.ts", "config.json"]

/-- Names that frameworks call. -/
def lifecycleMethods : List Text :=
  ["onMount", "onUnmount", "onDestroy", "beforeCreate", "afterCreate",
    "willUpdate", "didUpdate", "shouldUpdate", "componentDidMount",
    "componentWillUnmount", "render", "constructor", "getDerivedStateFromProps",
    "getSnapshotBeforeUpdate", "componentDidCatch", "setup", "cleanup",
    "useEffect", "useLayoutEffect", "useMemo", "useCallback"]

/-- The paths of test files contain one of these. -/
def testFileMarkers : List Text := [".test.", ".spec.", "/__tests__/", "/__mocks__/"]

def testNameMarkers : List Text := ["mock", "stub", "fake", "test", "spec"]

def demoMarkers : List Text :=
  ["/demo/", "/demos/", "/example/", "/examples/", "/sample/", "/samples/",
    ".demo.", ".example.", ".sample.", "/playground/", "/snippets/",
    "/scratch/", "/tmp/", "/temp/"]

def deprecatedWords : List Text := ["deprecated", "old", "legacy"]

/-- Why to keep an export, by the reason found first in this list. -/
def keepReasons : List (Text × Text) :=
  [("ignored-by-config", "ignored by configuration"),
    ("public-api-path", "configured public API"),
    ("entry-point-file", "part of public API"),
    ("framework-pattern-next", "Next.js convention"),
    ("framework-pattern-react", "React component"),
    ("framework-pattern-vue", "Vue component"),
    ("framework-pattern-storybook", "Storybook story"),
    ("framework-pattern-jest", "test file"),
    ("lifecycle-method", "lifecycle hook"),
    ("test-utility", "test helper function"),
    ("index-file", "barrel export file")]

/-- Why to remove an export, by the reason found first in this list. -/
def removeReasons : List (Text × Text) :=
  [("deprecated-pattern", "appears to be deprecated"),
    ("private-naming", "uses private naming convention"),
    ("demo-or-example-file", "appears to be a demo/example file")]

/-- A classifier. Without weights, or with an empty table, the default weights
are used. -/
def make (root : Option Text) (manifest : Json) (rules : Rules)
    (weights : Table Text Int) : ExportClassifier where
  root := root
  entryPoints := EntryPoint.ofManifest manifest
  rules := rules
  weights := weightsOr defaultExportWeights weights

/-- The path of a module as the project spells it. -/
def shortPath (c : ExportClassifier) (module : Text) : Text := Path.fromRoot module c.root

/-- The path of a module as the project spells it, with a slash in front. -/
def anchoredPath (c : ExportClassifier) (module : Text) : Text := "/" ++ c.shortPath module

def isIgnored (c : ExportClassifier) (f : UnusedExport) : Bool :=
  c.rules.ignoredExports.entries.any fun rule =>
    (Glob.isMatch rule.1 f.module || Glob.isMatch rule.1 (c.shortPath f.module)) &&
      Glob.anyMatch rule.2 f.name

def frameworkOf (c : ExportClassifier) (module : Text) : Option Framework :=
  Framework.all.find? fun framework => Text.occursAny framework.markers (c.anchoredPath module)

def isTestUtility (c : ExportClassifier) (f : UnusedExport) : Bool :=
  Text.occursAny testFileMarkers (c.anchoredPath f.module) &&
    Text.occursAny testNameMarkers (Text.lower f.name)

def isPrivateName (name : Text) : Bool :=
  Text.begins "_" name || Text.occurs "Private" name || Text.occurs "Internal" name ||
    Text.ends "Impl" name

/-- What one signal says about an unused export. -/
def detect (c : ExportClassifier) (signal : ExportSignal) (f : UnusedExport) : Option Hit :=
  match signal with
  | .ignoredByConfig => Hit.when (c.isIgnored f)
  | .publicApiPath => Hit.when (Glob.anyMatch c.rules.publicApiPaths (c.shortPath f.module))
  | .entryPointFile => Hit.when (c.entryPoints.contains (c.shortPath f.module))
  | .indexFile => Hit.when (EntryPoint.indexFiles.contains (Path.base f.module))
  | .configFile => Hit.when (Text.occursAny configFileMarkers (Text.lower (Path.base f.module)))
  | .frameworkPattern =>
    (c.frameworkOf f.module).map fun framework =>
      { reason := some ("framework-pattern-" ++ framework.name) }
  | .lifecycleMethod => Hit.when (lifecycleMethods.contains f.name)
  | .testUtility => Hit.when (c.isTestUtility f)
  | .demoOrExampleFile =>
    Hit.when (Text.occursAny demoMarkers ("/" ++ Text.lower (c.shortPath f.module)))
  | .deprecatedPattern =>
    Hit.when ((Text.nameWords f.name).any fun word => deprecatedWords.contains word)
  | .privateNaming => Hit.when (isPrivateName f.name)

def tests (c : ExportClassifier) : List (NamedTest UnusedExport) :=
  NamedTest.ofKinds ExportSignal.all ExportSignal.name c.detect

def signals (c : ExportClassifier) : List (Signal UnusedExport) :=
  NamedTest.weigh c.weights c.tests

def advice (score : Int) (reasons : List Text) : Text :=
  if reasons.contains "config-file" then "Keep - configuration file for build tools"
  else if reasons.contains "entry-point-file" then "Keep - part of public API"
  else if score > 5 then
    "Keep - " ++ (firstMatching reasons keepReasons).getD "likely intentional"
  else if score < -5 then
    "Consider removing - " ++ (firstMatching reasons removeReasons).getD "possibly dead code"
  else "Review needed - unclear if this export is necessary"

def classify (c : ExportClassifier) (f : UnusedExport) : Except VerdictError Verdict :=
  let e := Evaluation.ofSignals c.signals f
  Verdict.ofEvaluation e (advice e.score e.reasons)

end ExportClassifier

end ModuleAudit
