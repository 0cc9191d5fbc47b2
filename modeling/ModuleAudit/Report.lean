import ModuleAudit.Analysis

/-!
# Reports as JSON

How each part of a report is written. Fields stand in a fixed order, a missing
line number is null, and an optional name is left out when it is missing.

The node of a module is written so that it can be read again as facts about the
module.
-/

namespace ModuleAudit

namespace Json

def ofNat (n : Nat) : Json := .int n

def ofTexts (texts : List Text) : Json := .arr (texts.map .str)

/-- An optional text, null where it is missing. -/
def ofText? : Option Text → Json
  | some text => .str text
  | none => .null

/-- An optional line number, null where it is missing. -/
def ofLine : Option Int → Json
  | some line => .int line
  | none => .null

def optionalField (name : Text) : Option Text → List (Text × Json)
  | some text => [(name, .str text)]
  | none => []

def joined (first rest : List (Text × Json)) : Json := .obj (first ++ rest)

/-- The fields of an object; other values have none. -/
def fieldsOf : Json → List (Text × Json)
  | .obj fields => fields
  | _ => []

end Json

open Json

def Binding.toJson (b : Binding) : Json :=
  joined [("kind", .str b.kind.name), ("localName", .str b.localName)]
    (optionalField "importedName" b.importedName)

def ExportDecl.toJson (e : ExportDecl) : Json :=
  joined [("name", .str e.name), ("kind", .str e.kind.name), ("line", ofLine e.line)]
    (optionalField "source" e.source)

/-- What every import in a graph tells: its specifier, form, line and kind. -/
def ImportStatement.toFields (s : ImportStatement) (kind : Text) : List (Text × Json) :=
  [("source", .str s.source), ("type", .str s.form), ("line", ofLine s.line),
    ("dependencyType", .str kind)]

/-- An import that leads to a module, as JSON. -/
def InternalImport.toJson (i : InternalImport) : Json :=
  joined (i.statement.toFields "internal")
    [("resolved", .str i.target), ("specifiers", .arr (i.statement.bindings.map Binding.toJson))]

/-- An import that leads out of the project, as JSON. -/
def ExternalImport.toJson (i : ExternalImport) : Json :=
  .obj (i.statement.toFields i.origin.name)

/-- An import that leads nowhere, as JSON. -/
def ImportStatement.toUnresolvedJson (s : ImportStatement) : Json :=
  joined (s.toFields "unresolved-internal")
    [("message", .str ("Could not resolve internal import: " ++ s.source))]

def Importer.toJson (i : Importer) : Json :=
  .obj [("source", .str i.module), ("line", ofLine i.line), ("type", .str i.form)]

def ModuleNode.toJson (n : ModuleNode) : Json :=
  .obj [
    ("fileType", .str n.fileType.name),
    ("imports", .arr (n.imports.map InternalImport.toJson)),
    ("importedBy", .arr (n.importedBy.map Importer.toJson)),
    ("exports", .arr (n.exports.map ExportDecl.toJson)),
    ("externalDependencies", .arr (n.external.map ExternalImport.toJson)),
    ("unresolvedInternals", .arr (n.unresolved.map ImportStatement.toUnresolvedJson))]

def NodeMap.toJson (nodes : NodeMap) : Json :=
  .obj (nodes.entries.map fun e => (e.1, e.2.toJson))

def ModuleError.toJson (e : ModuleError) : Json :=
  .obj [("module", .str e.module), ("message", .str e.message)]

def UnusedExport.toJson (f : UnusedExport) : Json :=
  .obj [("module", .str f.module), ("exportName", .str f.name), ("line", ofLine f.line)]

def MissingExport.toJson (f : MissingExport) : Json :=
  .obj [
    ("source", .str f.importer),
    ("targetModule", .str f.target),
    ("missingExport", .str f.name),
    ("line", ofLine f.line),
    ("importSource", .str f.specifier)]

def UnresolvedImport.toJson (f : UnresolvedImport) : Json :=
  .obj [("fromModule", .str f.importer), ("source", .str f.specifier), ("line", ofLine f.line)]

/-- A confidence as a number between zero and one. -/
def Confidence.toJson (c : Confidence) : Json := .float (.ofRatio false c.tenths 10)

def Verdict.toJson (v : Verdict) : Json :=
  .obj [
    ("classification", .str v.classification.name),
    ("score", .int v.score),
    ("confidence", v.confidence.toJson),
    ("reasons", ofTexts v.reasons),
    ("suggestion", .str v.suggestion),
    ("suggestions", ofTexts v.suggestions)]

/-- A finding together with the verdict on it, as one JSON object. -/
def Classified.toJson {α : Type} (encode : α → Json) (c : Classified α) : Json :=
  joined (fieldsOf (encode c.finding)) (fieldsOf c.verdict.toJson)

def CouplingFinding.toJson (f : CouplingFinding) : Json :=
  .obj [("module", .str f.module), ("importCount", ofNat f.importCount),
    ("threshold", .int f.threshold)]

def CouplingProfile.toJson (p : CouplingProfile) : Json :=
  .obj [
    ("median", ofNat p.median),
    ("p90", ofNat p.p90),
    ("max", ofNat p.max),
    ("highCouplingThreshold", .int p.threshold),
    ("coreModules", .arr (p.core.map fun e =>
      .obj [("path", .str e.1), ("importedByCount", ofNat e.2)])),
    ("entryCandidates", ofTexts p.entryCandidates)]

/-- What a report tells about the label of an edge. -/
structure LabelEncoding (ε : Type) where
  specifier : ε → Json
  line : ε → Json

def Link.encoding : LabelEncoding Link where
  specifier link := .str link.specifier
  line link := ofLine link.line

def BreakingPoint.toJson {ε : Type} (encoding : LabelEncoding ε) (p : BreakingPoint ε) : Json :=
  .obj [
    ("from", .str p.source),
    ("to", .str p.target),
    ("specifier", encoding.specifier p.label),
    ("line", encoding.line p.label),
    ("impact", .str p.impact.name)]

def CycleDetail.toJson {ε : Type} (encoding : LabelEncoding ε) (d : CycleDetail ε) : Json :=
  .obj [
    ("id", ofNat d.id),
    ("cycle", ofTexts d.cycle),
    ("length", .int d.length),
    ("severity", .str d.severity.name),
    ("description", .str d.description),
    ("breaking_points", .arr (d.breakingPoints.map (BreakingPoint.toJson encoding)))]

def Cycle.analysisJson {ε : Type} (encoding : LabelEncoding ε) (details : List (CycleDetail ε)) :
    Json :=
  .obj [
    ("total_cycles", ofNat details.length),
    ("cycle_details", .arr (details.map (CycleDetail.toJson encoding))),
    ("severity_distribution", .obj [
      ("low", ofNat (countOf .low details)),
      ("medium", ofNat (countOf .medium details)),
      ("high", ofNat (countOf .high details)),
      ("critical", ofNat (countOf .critical details))]),
    ("affected_modules", ofTexts (affected details))]

/-- What to do about each cycle, as JSON. -/
def Cycle.suggestionsJson {ε : Type} (encoding : LabelEncoding ε)
    (details : List (CycleDetail ε)) : Json :=
  .arr (details.map fun d => .obj [
    ("cycle_id", ofNat d.id),
    ("cycle", ofTexts d.cycle),
    ("severity", .str d.severity.name),
    ("breaking_points", .arr (d.breakingPoints.map (BreakingPoint.toJson encoding))),
    ("recommended_action", .str d.severity.advice)])

def Json.ofPaths (paths : List (List Text)) : Json := .arr (paths.map ofTexts)

def InspectionSummary.toJson {ε : Type} (encoding : LabelEncoding ε)
    (s : InspectionSummary ε) : Json :=
  .obj [
    ("graph_stats", .obj [
      ("total_nodes", ofNat s.nodeCount),
      ("total_edges", ofNat s.edgeCount),
      ("is_dag", .bool s.isAcyclic)]),
    ("cycle_analysis", Cycle.analysisJson encoding s.details),
    ("strongly_connected_components", .obj [
      ("count", ofNat s.components.length),
      ("components", ofPaths s.components),
      ("largest_component_size", ofNat s.largestComponent)]),
    ("recommendations", Cycle.suggestionsJson encoding s.details)]

def GraphStats.toJson (s : GraphStats) : Json :=
  .obj [
    ("total_modules", ofNat s.modules),
    ("total_internal_edges", ofNat s.internalEdges),
    ("total_external_edges", ofNat s.externalEdges),
    ("external_packages", ofNat s.packages),
    ("external_builtins", ofNat s.builtins),
    ("unresolved_internals", ofNat s.unresolved),
    ("is_connected", .bool s.isConnected),
    ("density", .float s.density),
    ("average_degree", .float s.averageDegree)]

def DependencyGraph.drawnNode (g : DependencyGraph) (path : Text) : Option Json :=
  (g.nodes.get? path).map fun node => .obj [
    ("id", .str path),
    ("label", .str (Path.base path)),
    ("file_type", .str node.fileType.name),
    ("imports", ofNat node.fanOut),
    ("imported_by", ofNat node.fanIn)]

def Link.drawn (e : Edge Text Link) : Json :=
  .obj [
    ("source", .str e.source),
    ("target", .str e.target),
    ("specifier", .str e.label.specifier),
    ("line", ofLine e.label.line),
    ("count", ofNat e.label.count)]

/-- The graph for a drawing: its nodes, its links and its statistics. -/
def DependencyGraph.drawing (g : DependencyGraph) : Json :=
  .obj [
    ("nodes", .arr (g.links.nodes.filterMap g.drawnNode)),
    ("edges", .arr (g.links.edgesByNode.map Link.drawn)),
    ("stats", g.stats.toJson)]

def AnalysisStats.toJson (s : AnalysisStats) : Json :=
  .obj [
    ("totalModules", ofNat s.totalModules),
    ("analyzedModules", ofNat s.analyzedModules),
    ("malformedModules", .int s.malformedModules),
    ("internalEdges", ofNat s.internalEdges),
    ("externalEdges", ofNat s.externalEdges),
    ("externalPackages", ofNat s.externalPackages),
    ("externalBuiltins", ofNat s.externalBuiltins),
    ("unresolvedInternals", ofNat s.unresolvedInternals),
    ("circularDependencies", ofNat s.circularDependencies),
    ("unusedExports", ofNat s.unusedExports),
    ("missingExports", ofNat s.missingExports),
    ("highCouplingModules", ofNat s.highCouplingModules),
    ("likelyProblematicUnusedExports", ofNat s.problematicUnusedExports),
    ("likelyProblematicMissingExports", ofNat s.problematicMissingExports),
    ("likelyProblematicUnresolvedImports", ofNat s.problematicUnresolvedImports)]

def AnalysisReport.toJson (r : AnalysisReport) : Json :=
  .obj [
    ("root", ofText? r.root),
    ("moduleCount", ofNat r.nodes.size),
    ("dependencyGraph", NodeMap.toJson r.nodes),
    ("circularDependencies", ofPaths r.cycles),
    ("cycleDetails", .arr (r.cycleDetails.map (CycleDetail.toJson Link.encoding))),
    ("stronglyConnectedComponents", ofPaths r.components),
    ("unusedExports", .arr (r.unused.map (Classified.toJson UnusedExport.toJson))),
    ("missingExports", .arr (r.missing.map (Classified.toJson MissingExport.toJson))),
    ("unresolvedImports", .arr (r.unresolved.map (Classified.toJson UnresolvedImport.toJson))),
    ("highCouplingModules", .arr (r.coupled.map CouplingFinding.toJson)),
    ("couplingProfile", r.profile.toJson),
    ("moduleErrors", .arr (r.errors.map ModuleError.toJson)),
    ("summary", r.stats.toJson)]

end ModuleAudit
