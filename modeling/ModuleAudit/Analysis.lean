import ModuleAudit.Classify.Export
import ModuleAudit.Classify.Import
import ModuleAudit.Coupling
import ModuleAudit.Cycle.Inspection
import ModuleAudit.DependencyGraph.Build
import ModuleAudit.DependencyGraph.Stats
import ModuleAudit.Record.FactMap

/-!
# One analysis of a project

An analysis has two stages. The survey reads the facts, builds the graph, and
finds cycles, components and the usage of exports. The verdicts on what the survey
found may fail for extreme weights, and a report exists only when all of them
succeed.

The limits of the machine stand in the way at three places: a value in the facts
that cannot be shown, a package manifest that is nested too deep to be searched,
and a coupling threshold too long for the log.

The lines that an analysis logs are a function of the survey and of the report,
so that an analysis that fails behind its survey has logged the lines of it.
-/

namespace ModuleAudit

/-- What stays the same from one analysis to the next. -/
structure Project where
  settings : Settings := {}
  root : Option Text := none
  manifest : Json := .null
  limits : Limits := {}

/-- Why there is no report. -/
inductive AnalysisError where
  | facts (error : ShowError)
  | manifest
  | verdict (error : VerdictError)
  | coupling (error : ShowError)
deriving DecidableEq, Repr

def AnalysisError.message (l : Limits) : AnalysisError → Text
  | .facts e => e.message l
  | .manifest => "maximum recursion depth exceeded in comparison"
  | .verdict e => e.message
  | .coupling e => e.message l

/-- What is found before anything is judged. -/
structure Survey where
  factCount : Nat
  recordErrors : List ModuleError
  modules : ModuleMap
  root : Option Text
  resolver : Resolver
  graph : DependencyGraph

/-- A finding with the verdict on it. -/
structure Classified (α : Type) where
  finding : α
  verdict : Verdict

def countProblematic {α : Type} (findings : List (Classified α)) : Nat :=
  findings.countP fun f => f.verdict.isProblematic

structure AnalysisStats where
  totalModules : Nat
  analyzedModules : Nat
  malformedModules : Int
  internalEdges : Nat
  externalEdges : Nat
  externalPackages : Nat
  externalBuiltins : Nat
  unresolvedInternals : Nat
  circularDependencies : Nat
  unusedExports : Nat
  missingExports : Nat
  highCouplingModules : Nat
  problematicUnusedExports : Nat
  problematicMissingExports : Nat
  problematicUnresolvedImports : Nat
deriving DecidableEq, Repr

/-- Everything one analysis finds. -/
structure AnalysisReport where
  root : Option Text
  nodes : NodeMap
  cycleDetails : List (CycleDetail Link)
  components : List (List Text)
  unused : List (Classified UnusedExport)
  missing : List (Classified MissingExport)
  unresolved : List (Classified UnresolvedImport)
  coupled : List CouplingFinding
  profile : CouplingProfile
  errors : List ModuleError
  stats : AnalysisStats

/-- The cycles of a report as closed paths. -/
def AnalysisReport.cycles (r : AnalysisReport) : List (List Text) :=
  r.cycleDetails.map CycleDetail.cycle

namespace Project

/-- The root of the modules: the given one unless it is missing or empty, else
their deepest common directory. -/
def rootOf (p : Project) (modules : ModuleMap) : Option Text :=
  (given p.root).or (Path.commonRoot modules.keys)

/-- Read the facts and build the graph. -/
def survey (p : Project) (facts : FactMap) : Survey :=
  let modules := facts.modules p.limits
  let root := p.rootOf modules
  let scan := p.settings.scan
  let resolver := Resolver.ofPaths modules.keys root scan.extensions scan.dataExtensions
  { factCount := facts.size
    recordErrors := facts.errors p.limits
    modules
    root
    resolver
    graph := DependencyGraph.build modules resolver.resolution {} }

def checksUsage (p : Project) : Bool :=
  p.settings.checks.unusedExports || p.settings.checks.missingExports

end Project

namespace Survey

def cycleDetails (s : Survey) : List (CycleDetail Link) :=
  Cycle.details s.graph.links s.graph.links.cycles

/-- The imports without a target. -/
def unresolved (s : Survey) : List UnresolvedImport :=
  (DependencyGraph.unresolvedImports s.graph.nodes).map fun e =>
    { importer := e.1, specifier := e.2.source, line := e.2.line }

def exportClassifier (s : Survey) (p : Project) : ExportClassifier :=
  .make s.root p.manifest p.settings.rules p.settings.weights.exports

def importClassifier (s : Survey) (p : Project) : ImportClassifier :=
  .make (some s.resolver) s.graph.nodes p.settings.rules p.settings.weights.imports
    p.settings.scan.extensions

def couplingMeter (s : Survey) (p : Project) : CouplingMeter where
  nodes := s.graph.nodes
  threshold := p.settings.checks.coupling.threshold
  excludePatterns := p.settings.checks.coupling.excludePatterns
  root := s.root

def classifyAll {α : Type} (judge : α → Except VerdictError Verdict) (findings : List α) :
    Except VerdictError (List (Classified α)) :=
  findings.mapM fun finding => do
    let verdict ← judge finding
    return { finding, verdict }

/-- A list if a check is made, else nothing. -/
def whenOn {α : Type} (check : Bool) (findings : List α) : List α :=
  if check then findings else []

def judgedUnused (s : Survey) (p : Project) :
    Except VerdictError (List (Classified UnusedExport)) :=
  classifyAll (s.exportClassifier p).classify
    (whenOn p.settings.checks.unusedExports (UsageReport.ofNodes s.graph.nodes).unused)

def judgedMissing (s : Survey) (p : Project) :
    Except VerdictError (List (Classified MissingExport)) :=
  let imports := s.importClassifier p
  classifyAll (fun f => imports.classify f.subject)
    (whenOn p.settings.checks.missingExports (UsageReport.ofNodes s.graph.nodes).missing)

def judgedUnresolved (s : Survey) (p : Project) :
    Except VerdictError (List (Classified UnresolvedImport)) :=
  let imports := s.importClassifier p
  classifyAll (fun f => imports.classify f.subject) s.unresolved

/-- The report on a survey whose findings have been judged. -/
def assemble (s : Survey) (p : Project) (unused : List (Classified UnusedExport))
    (missing : List (Classified MissingExport)) (unresolved : List (Classified UnresolvedImport)) :
    AnalysisReport :=
  let checks := p.settings.checks
  let nodes := s.graph.nodes
  let cycleDetails := whenOn checks.circularDependencies s.cycleDetails
  let meter := s.couplingMeter p
  let coupled := whenOn checks.coupling.enabled meter.findings
  { root := s.root
    nodes
    cycleDetails
    components := whenOn checks.circularDependencies s.graph.links.cyclicComponents
    unused
    missing
    unresolved
    coupled
    profile := meter.profile
    errors := s.recordErrors ++ s.graph.errors
    stats := {
      totalModules := s.factCount
      analyzedModules := nodes.size
      malformedModules := (s.factCount : Int) - nodes.size
      internalEdges := NodeMap.internalCount nodes
      externalEdges := (NodeMap.externals nodes).length
      externalPackages := NodeMap.originCount nodes .package
      externalBuiltins := NodeMap.originCount nodes .builtin
      unresolvedInternals := NodeMap.unresolvedCount nodes
      circularDependencies := cycleDetails.length
      unusedExports := unused.length
      missingExports := missing.length
      highCouplingModules := coupled.length
      problematicUnusedExports := countProblematic unused
      problematicMissingExports := countProblematic missing
      problematicUnresolvedImports := countProblematic unresolved } }

def judged (s : Survey) (p : Project) : Except VerdictError AnalysisReport := do
  let unused ← s.judgedUnused p
  let missing ← s.judgedMissing p
  let unresolved ← s.judgedUnresolved p
  return s.assemble p unused missing unresolved

/-- The lines that looking for coupled modules logs, if that is done. -/
def couplingJournal (s : Survey) (p : Project) : Except ShowError (List LogLine) :=
  if p.settings.checks.coupling.enabled then
    ((s.couplingMeter p).journal p.limits).map fun line => [line]
  else .ok []

/-- Report on the survey. The manifest is searched before anything is judged, and the
line about coupling comes behind the verdicts. -/
def report (s : Survey) (p : Project) : Except AnalysisError AnalysisReport :=
  if p.settings.checks.unusedExports && !EntryPoint.canSearch p.limits p.manifest then
    .error .manifest
  else do
    let report ← (s.judged p).mapError .verdict
    let _ ← (s.couplingJournal p).mapError .coupling
    return report

def resolutionJournal (s : Survey) : List LogLine :=
  (DependencyGraph.unresolvedImports s.graph.nodes).map fun e =>
    .debug .resolver ("Could not resolve " ++ e.2.source ++ " from " ++ e.1)

end Survey

namespace Project

/-- Analyse the facts about the modules of a project. -/
def analyze (p : Project) (facts : FactMap) : Except AnalysisError AnalysisReport :=
  match facts.obstacle? p.limits with
  | some error => .error (.facts error)
  | none => (p.survey facts).report p

/-- The lines that a survey of the facts logs, if the facts can be read. -/
def surveyJournal (p : Project) (facts : FactMap) : List LogLine :=
  let s := p.survey facts
  facts.journal p.limits ++
    Survey.whenOn (facts.obstacle? p.limits).isNone
      ([.info .engine ("Analyzing " ++ toString s.modules.size ++ " modules under " ++
        s.root.getD "None")] ++
      s.resolutionJournal ++ [s.graph.journal] ++
      Survey.whenOn p.settings.checks.circularDependencies s.graph.links.cycleJournal ++
      Survey.whenOn p.checksUsage [(UsageReport.ofNodes s.graph.nodes).journal])

/-- The lines that a report logs behind those of its survey. -/
def reportJournal (p : Project) (facts : FactMap) (r : AnalysisReport) : List LogLine :=
  ((p.survey facts).couplingJournal p).toOption.getD [] ++
    [.info .engine ("Analysis complete: " ++ toString r.stats.circularDependencies ++
      " cycles, " ++ toString r.stats.unusedExports ++ " unused exports, " ++
      toString r.stats.missingExports ++ " missing exports, " ++
      toString r.stats.unresolvedInternals ++ " unresolved imports")]

end Project

end ModuleAudit
