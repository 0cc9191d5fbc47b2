import ModuleAudit.Proofs.Analysis.Survey
import ModuleAudit.Proofs.Classify.Consulted

/-!
# Findings inside the project

Most of what a report says concerns the modules and the imports between them. Two
surveys that agree on these agree on the cycles, on the usage of exports, on the
verdicts about it and on the coupling, whatever leads out of the project or nowhere.
-/

namespace ModuleAudit

/-- The part of a node that lies inside the project. -/
def ModuleNode.internalPart (n : ModuleNode) : ModuleNode :=
  { n with external := [], unresolved := [] }

/-- The usage of exports is a matter of the project alone. -/
theorem UsageReport.ofNodes_internalPart (nodes : NodeMap) :
    ofNodes (nodes.map fun _ => ModuleNode.internalPart) = ofNodes nodes := by
  have uses : bindingUses (nodes.map fun _ => ModuleNode.internalPart) = bindingUses nodes := by
    rw [bindingUses, Table.entries_map, List.flatMap_map]
    rfl
  have opened : start (nodes.map fun _ => ModuleNode.internalPart) = start nodes := by
    rw [start, Table.entries_map, List.filterMap_map]
    rfl
  rw [ofNodes, uses, opened, ofNodes]

namespace CouplingMeter

variable (m : CouplingMeter)

/-- The same measure of the parts of the nodes that lie inside the project. -/
def internalPart : CouplingMeter where
  nodes := m.nodes.map fun _ => ModuleNode.internalPart
  threshold := m.threshold
  excludePatterns := m.excludePatterns
  root := m.root

theorem findings_internalPart : m.internalPart.findings = m.findings := by
  rw [findings, internalPart, Table.entries_map, List.filterMap_map]
  rfl

theorem profile_internalPart : m.internalPart.profile = m.profile := by
  have counts : fanOuts m.internalPart.nodes = fanOuts m.nodes := by
    rw [fanOuts, Table.values, internalPart, Table.entries_map, List.map_map, List.map_map, fanOuts,
      Table.values, List.map_map]
    rfl
  have imported : importedModules m.internalPart.nodes = importedModules m.nodes := by
    rw [importedModules, internalPart, Table.entries_map, List.filterMap_map]
    rfl
  have candidates : m.internalPart.nodes.entries.filterMap (fun e =>
        if e.2.importedBy.isEmpty && !e.2.imports.isEmpty then some e.1 else none) =
      m.nodes.entries.filterMap fun e =>
        if e.2.importedBy.isEmpty && !e.2.imports.isEmpty then some e.1 else none := by
    rw [internalPart, Table.entries_map, List.filterMap_map]
    rfl
  rw [profile, counts, imported, candidates, profile]
  rfl

end CouplingMeter

/-- Two surveys agree inside the project. -/
structure Survey.AgreeInside (s s' : Survey) : Prop where
  root : s'.root = s.root
  resolver : s'.resolver = s.resolver
  links : s'.graph.links = s.graph.links
  nodes : s'.graph.nodes.map (fun _ => ModuleNode.internalPart) =
    s.graph.nodes.map fun _ => ModuleNode.internalPart

namespace Survey.AgreeInside

variable {s s' : Survey} (agree : s.AgreeInside s') (p : Project)

include agree

theorem usage : UsageReport.ofNodes s'.graph.nodes = UsageReport.ofNodes s.graph.nodes := by
  rw [← UsageReport.ofNodes_internalPart, agree.nodes, UsageReport.ofNodes_internalPart]

theorem exports (path : Text) :
    (s'.graph.nodes.get? path).map ModuleNode.exports =
      (s.graph.nodes.get? path).map ModuleNode.exports := by
  have inner (nodes : NodeMap) : (nodes.get? path).map ModuleNode.exports =
      ((nodes.map fun _ => ModuleNode.internalPart).get? path).map ModuleNode.exports := by
    rw [Table.get?_map, Option.map_map]
    rfl
  rw [inner, agree.nodes, ← inner]

/-- Imports are judged in the same way. -/
theorem classify : (s'.importClassifier p).classify = (s.importClassifier p).classify := by
  have paths : s'.resolver.paths.Perm s.resolver.paths := by rw [agree.resolver]
  exact ImportClassifier.classify_make_eq paths agree.exports _ _ _

theorem judgedUnused : s'.judgedUnused p = s.judgedUnused p := by
  rw [Survey.judgedUnused, Survey.exportClassifier, agree.root, agree.usage]
  rfl

theorem judgedMissing : s'.judgedMissing p = s.judgedMissing p := by
  rw [Survey.judgedMissing, agree.classify p, agree.usage]
  rfl

theorem cycleDetails : s'.cycleDetails = s.cycleDetails := by
  rw [Survey.cycleDetails, agree.links, Survey.cycleDetails]

theorem couplingMeter :
    (s'.couplingMeter p).internalPart = (s.couplingMeter p).internalPart := by
  simp only [CouplingMeter.internalPart, Survey.couplingMeter, agree.nodes, agree.root]

theorem coupled : (s'.couplingMeter p).findings = (s.couplingMeter p).findings := by
  rw [← CouplingMeter.findings_internalPart, agree.couplingMeter,
    CouplingMeter.findings_internalPart]

theorem couplingJournal : s'.couplingJournal p = s.couplingJournal p := by
  have threshold : (s'.couplingMeter p).threshold = (s.couplingMeter p).threshold := rfl
  rw [Survey.couplingJournal, CouplingMeter.journal, threshold, agree.coupled p,
    Survey.couplingJournal, CouplingMeter.journal]

theorem profile : (s'.couplingMeter p).profile = (s.couplingMeter p).profile := by
  rw [← CouplingMeter.profile_internalPart, agree.couplingMeter,
    CouplingMeter.profile_internalPart]

end Survey.AgreeInside

end ModuleAudit
