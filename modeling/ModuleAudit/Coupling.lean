import ModuleAudit.DependencyGraph.Basic
import ModuleAudit.Json.Display
import ModuleAudit.Log
import ModuleAudit.Path
import ModuleAudit.Text.Matching

/-!
# Coupling

A module that imports many modules of its project is tightly coupled. Modules
above a threshold are reported, and the profile summarises the distribution of
the fan-out together with the modules that most others depend on.
-/

namespace ModuleAudit

/-- A module whose fan-out is above the threshold. -/
structure CouplingFinding where
  module : Text
  importCount : Nat
  threshold : Int
deriving DecidableEq, Repr

/-- The distribution of the fan-out. `core` lists the modules with the most
importers, `entryCandidates` those that import and are not imported. -/
structure CouplingProfile where
  median : Nat := 0
  p90 : Nat := 0
  max : Nat := 0
  threshold : Int
  core : List (Text × Nat) := []
  entryCandidates : List Text := []
deriving DecidableEq, Repr

structure CouplingMeter where
  nodes : NodeMap
  threshold : Int
  excludePatterns : List Text
  root : Option Text

namespace CouplingMeter

def coreLimit : Nat := 5

/-- Whether a module is exempt, by its path or by the path the project spells. -/
def isExcluded (m : CouplingMeter) (path : Text) : Bool :=
  Glob.anyMatch m.excludePatterns path ||
    Glob.anyMatch m.excludePatterns (Path.fromRoot path m.root)

/-- The modules above the threshold, in order. -/
def findings (m : CouplingMeter) : List CouplingFinding :=
  m.nodes.entries.filterMap fun e =>
    if (e.2.fanOut : Int) ≤ m.threshold || m.isExcluded e.1 then none
    else some { module := e.1, importCount := e.2.fanOut, threshold := m.threshold }

/-- The fan-outs in increasing order. -/
def fanOuts (nodes : NodeMap) : List Nat :=
  (nodes.values.map ModuleNode.fanOut).mergeSort fun a b => a ≤ b

/-- Whether one imported module comes before another: more importers first, then
the smaller path. -/
def comesBefore (a b : Text × Nat) : Bool := b.2 < a.2 || (a.2 == b.2 && Text.atMost a.1 b.1)

/-- The modules that are imported, with the number of their imports, the most
imported first. -/
def importedModules (nodes : NodeMap) : List (Text × Nat) :=
  (nodes.entries.filterMap fun e =>
    if e.2.importedBy.isEmpty then none else some (e.1, e.2.fanIn)).mergeSort comesBefore

def profile (m : CouplingMeter) : CouplingProfile :=
  let counts := fanOuts m.nodes
  let n := counts.length
  { median := counts.getD (n / 2) 0
    p90 := counts.getD (n * 9 / 10) 0
    max := counts.getLastD 0
    threshold := m.threshold
    core := (importedModules m.nodes).take coreLimit
    entryCandidates := m.nodes.entries.filterMap fun e =>
      if e.2.importedBy.isEmpty && !e.2.imports.isEmpty then some e.1 else none }

/-- The line that looking for coupled modules logs. It shows the threshold, which may
be too long for that. -/
def journal (l : Limits) (m : CouplingMeter) : Except ShowError LogLine :=
  if Json.isLong l m.threshold then .error .longInteger
  else .ok (.info .coupling ("Found " ++ toString m.findings.length ++
    " modules above the coupling threshold of " ++ Json.intText m.threshold))

end CouplingMeter

end ModuleAudit
