import ModuleAudit.Classify.Export
import ModuleAudit.Classify.Import
import ModuleAudit.CommandLine.Session
import ModuleAudit.Coupling
import ModuleAudit.Cycle.Inspection
import ModuleAudit.Decimal.Notation
import ModuleAudit.DependencyGraph.Build
import ModuleAudit.DependencyGraph.Stats
import ModuleAudit.Digraph.BackEdge
import ModuleAudit.Digraph.Reach
import ModuleAudit.Digraph.Topological
import ModuleAudit.Json.Parser
import ModuleAudit.Json.Printer
import ModuleAudit.Main
import ModuleAudit.Path
import ModuleAudit.Proofs.Analysis.BreakingPoint
import ModuleAudit.Proofs.Analysis.Conservation
import ModuleAudit.Proofs.Analysis.ExportCorrection
import ModuleAudit.Proofs.Analysis.External
import ModuleAudit.Proofs.Analysis.FindingKinds
import ModuleAudit.Proofs.Analysis.Isolation
import ModuleAudit.Proofs.Analysis.Overflow
import ModuleAudit.Proofs.Analysis.Reordering
import ModuleAudit.Proofs.Analysis.Rereading
import ModuleAudit.Proofs.Analysis.Survey
import ModuleAudit.Proofs.Analysis.Verdicts
import ModuleAudit.Proofs.BackEdge.Bookkeeping
import ModuleAudit.Proofs.BackEdge.Completeness
import ModuleAudit.Proofs.BackEdge.Separation
import ModuleAudit.Proofs.Classify.Advice
import ModuleAudit.Proofs.Classify.Audit
import ModuleAudit.Proofs.Classify.Correction
import ModuleAudit.Proofs.Classify.ExtensionHint
import ModuleAudit.Proofs.Classify.Suggestion
import ModuleAudit.Proofs.CommandLine.Endings
import ModuleAudit.Proofs.CommandLine.FileTree
import ModuleAudit.Proofs.CommonRoot
import ModuleAudit.Proofs.Coupling
import ModuleAudit.Proofs.Coupling.Profile
import ModuleAudit.Proofs.Cycle.Affected
import ModuleAudit.Proofs.Cycle.Agreement
import ModuleAudit.Proofs.Cycle.Classes
import ModuleAudit.Proofs.Cycle.Components
import ModuleAudit.Proofs.Cycle.OnePerEdge
import ModuleAudit.Proofs.Cycle.Renaming
import ModuleAudit.Proofs.Cycle.Reported
import ModuleAudit.Proofs.Cycle.Rotation
import ModuleAudit.Proofs.Decimal.Overflow
import ModuleAudit.Proofs.DependencyGraph.Alike
import ModuleAudit.Proofs.DependencyGraph.Failure
import ModuleAudit.Proofs.DependencyGraph.Growth
import ModuleAudit.Proofs.DependencyGraph.Mirror
import ModuleAudit.Proofs.DependencyGraph.Rebuild
import ModuleAudit.Proofs.DependencyGraph.Relocation
import ModuleAudit.Proofs.DependencyGraph.Renaming
import ModuleAudit.Proofs.Digraph.Generations
import ModuleAudit.Proofs.Digraph.Renaming
import ModuleAudit.Proofs.ExportUsage.Exactness
import ModuleAudit.Proofs.ExportUsage.Ledger
import ModuleAudit.Proofs.ExportUsage.Reordering
import ModuleAudit.Proofs.Glob
import ModuleAudit.Proofs.Path.Ancestor
import ModuleAudit.Proofs.Path.Canonical
import ModuleAudit.Proofs.Path.Segments
import ModuleAudit.Proofs.Path.Under
import ModuleAudit.Proofs.Record.External
import ModuleAudit.Proofs.Record.Grammar
import ModuleAudit.Proofs.Record.RoundTrip
import ModuleAudit.Proofs.Resolver.NormalTargets
import ModuleAudit.Proofs.Resolver.Relocation
import ModuleAudit.Proofs.Resolver.Spellings
import ModuleAudit.Proofs.Settings.Respelling
import ModuleAudit.Proofs.Settings.Sections
import ModuleAudit.Proofs.Settings.Validated
import ModuleAudit.Proofs.Signal
import ModuleAudit.Proofs.Table
import ModuleAudit.Proofs.Text.EditDistance
import ModuleAudit.Proofs.Text.Words
import ModuleAudit.Proofs.Walk
import ModuleAudit.Record.FactMap
import ModuleAudit.Report
import ModuleAudit.Resolver
import ModuleAudit.Settings.Reading
import ModuleAudit.Table
import ModuleAudit.Text.Case
import ModuleAudit.Text.Matching
import ModuleAudit.Text.Quoted
import ModuleAudit.Text.Words
