import ModuleAudit.Resolver
import ModuleAudit.Table

/-!
# Settings

What a project may configure, in four sections: the files that are scanned, the
checks that are made, the rules the classifiers consult, and the weights of
their signals. Every section has defaults.
-/

namespace ModuleAudit

/-- Which files are modules. The analysis itself reads the extensions only. -/
structure ScanSettings where
  extensions : List Text := defaultExtensions
  dataExtensions : List Text := defaultDataExtensions
  exclude : List Text := ["node_modules", "dist", "coverage", ".git", "build", "out"]
  respectGitignore : Bool := true
  ignoreTestFiles : Bool := false
  testPatterns : List Text :=
    ["*.test.js", "*.test.jsx", "*.test.ts", "*.test.tsx",
      "*.spec.js", "*.spec.jsx", "*.spec.ts", "*.spec.tsx",
      "**/test/**", "**/tests/**", "**/__tests__/**"]
deriving DecidableEq

/-- The fan-out up to which a module is not reported, unless configured. -/
def defaultThreshold : Nat := 10

structure CouplingSettings where
  enabled : Bool := true
  threshold : Nat := defaultThreshold
  excludePatterns : List Text := []
deriving DecidableEq

structure CheckSettings where
  circularDependencies : Bool := true
  unusedExports : Bool := true
  missingExports : Bool := true
  coupling : CouplingSettings := {}
deriving DecidableEq

/-- Project rules for the classifiers. `ignoredExports` gives, under a pattern
for paths, the patterns for names. -/
structure Rules where
  ignoredExports : Table Text (List Text) := .empty
  ignoredImports : List Text := []
  publicApiPaths : List Text := []

def defaultExportWeights : Table Text Int := .ofList
  [("ignored-by-config", 20), ("public-api-path", 15), ("entry-point-file", 10),
    ("index-file", 8), ("config-file", 7), ("framework-pattern", 7), ("test-utility", 6),
    ("lifecycle-method", 5), ("demo-or-example-file", -8), ("deprecated-pattern", -10),
    ("private-naming", -8)]

def defaultImportWeights : Table Text Int := .ofList
  [("ignored-by-config", 20), ("integration-test-pattern", 10), ("build-time-constant", 10),
    ("platform-specific", 8), ("optional-dependency", 7), ("star-re-export-target", 5),
    ("possible-typo", -10), ("improper-build-import", -8), ("missing-extension", -8)]

/-- Signal weights by the signals' names. -/
structure Weights where
  exports : Table Text Int := defaultExportWeights
  imports : Table Text Int := defaultImportWeights

structure Settings where
  scan : ScanSettings := {}
  checks : CheckSettings := {}
  rules : Rules := {}
  weights : Weights := {}

end ModuleAudit
