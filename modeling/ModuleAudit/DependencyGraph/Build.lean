import ModuleAudit.DependencyGraph.Basic
import ModuleAudit.Log
import ModuleAudit.Resolver

/-!
# Building the dependency graph

Every import statement is placed by its specifier: a relative one is resolved,
any other leads out of the project. Resolution is a parameter that may fail; a
failure is confined to the module whose import was being placed, which then has
no imports at all.

The nodes are built first. A second pass over their internal imports enters
each of them on its target and into the links, so that both views list the same
imports in the same order.
-/

namespace ModuleAudit

/-- A way to resolve specifiers: from the specifier and the importer to the
target, if there is one, or to the reason of a failure. -/
abbrev Resolution := Text → Text → Except Text (Option Text)

/-- Resolution by a resolver, which never fails. -/
def Resolver.resolution (r : Resolver) : Resolution := fun specifier importer =>
  .ok (r.resolve specifier importer)

def builtinModules : List Text :=
  List.map Text.ofString
    ["assert", "async_hooks", "buffer", "child_process", "cluster", "console",
      "constants", "crypto", "dgram", "diagnostics_channel", "dns", "domain",
      "events", "fs", "http", "http2", "https", "inspector", "module", "net",
      "os", "path", "perf_hooks", "process", "punycode", "querystring",
      "readline", "repl", "stream", "string_decoder", "sys", "timers", "tls",
      "trace_events", "tty", "url", "util", "v8", "vm", "wasi",
      "worker_threads", "zlib"]

/-- Where a specifier leads that is not relative. A path below a built-in module
belongs to it. -/
def originOf (specifier : Text) : Origin :=
  let first := specifier.takeWhile fun c => c ≠ Path.slash
  if Text.begins "node:" specifier || builtinModules.contains first then .builtin else .package

/-- Where an import statement was found to lead. -/
inductive Placement where
  | internal (import_ : InternalImport)
  | external (import_ : ExternalImport)
  | unresolved (statement : ImportStatement)
deriving DecidableEq, Repr

namespace Placement

/-- The import, if it leads to a module of the project. -/
def internal? : Placement → Option InternalImport
  | .internal i => some i
  | _ => none

/-- The import, if it leads out of the project. -/
def external? : Placement → Option ExternalImport
  | .external i => some i
  | _ => none

/-- The statement, if it leads nowhere. -/
def unresolved? : Placement → Option ImportStatement
  | .unresolved s => some s
  | _ => none

end Placement

/-- Place one import statement of a module. An empty target is none. -/
def placeImport (resolve : Resolution) (importer : Text) (s : ImportStatement) :
    Except Text Placement :=
  if isRelativeSpecifier s.source then
    match resolve s.source importer with
    | .ok found =>
      match given found with
      | some target => .ok (.internal { statement := s, target })
      | none => .ok (.unresolved s)
    | .error reason => .error reason
  else .ok (.external { statement := s, origin := originOf s.source })

namespace ModuleNode

/-- The node of a module whose imports have been placed. -/
def ofPlacements (facts : ModuleFacts) (placements : List Placement) : ModuleNode where
  fileType := facts.fileType
  exports := facts.exports
  imports := placements.filterMap Placement.internal?
  external := placements.filterMap Placement.external?
  unresolved := placements.filterMap Placement.unresolved?

/-- The node of a module, or the reason why one of its imports failed. -/
def build (resolve : Resolution) (path : Text) (facts : ModuleFacts) :
    Except Text ModuleNode := do
  let placements ← facts.imports.mapM (placeImport resolve path)
  return ofPlacements facts placements

/-- The node of a module; a failure leaves it without imports. -/
def buildOrBare (resolve : Resolution) (path : Text) (facts : ModuleFacts) : ModuleNode :=
  match build resolve path facts with
  | .ok node => node
  | .error _ => ofFacts facts

def addImporter (importer : Importer) (node : ModuleNode) : ModuleNode :=
  { node with importedBy := node.importedBy ++ [importer] }

end ModuleNode

namespace DependencyGraph

def errorOf (resolve : Resolution) (e : Text × ModuleFacts) : Option ModuleError :=
  match ModuleNode.build resolve e.1 e.2 with
  | .ok _ => none
  | .error reason => some { module := e.1, message := "import processing failed: " ++ reason }

/-- Every internal import with the module it stands in. -/
def internalImports (nodes : NodeMap) : List (Text × InternalImport) :=
  nodes.entries.flatMap fun e => e.2.imports.map fun i => (e.1, i)

/-- Enter one internal import on its target and into the links. A target outside
the graph is left alone. -/
def enterImport (g : DependencyGraph) (e : Text × InternalImport) : DependencyGraph :=
  if g.nodes.contains e.2.target then
    let s := e.2.statement
    { g with
      nodes := g.nodes.modify e.2.target
        (ModuleNode.addImporter { module := e.1, line := s.line, form := s.form })
      links := g.links.addEdge e.1 e.2.target { specifier := s.source, line := s.line, count := 1 }
        fun link => { link with count := link.count + 1 } }
  else g

/-- Build the graph of the modules on top of an earlier one. The nodes are built
anew; links count on, and errors are added to those before. -/
def build (modules : ModuleMap) (resolve : Resolution) (before : DependencyGraph) :
    DependencyGraph :=
  let nodes := modules.map (ModuleNode.buildOrBare resolve)
  let g : DependencyGraph :=
    { nodes
      links := modules.keys.foldl (fun links path => links.addNode path) before.links
      errors := before.errors ++ modules.entries.filterMap (errorOf resolve) }
  (internalImports nodes).foldl enterImport g

def journal (g : DependencyGraph) : LogLine :=
  .info .graph ("Built dependency graph with " ++ toString g.nodes.size ++ " modules and " ++
    toString g.links.edges.length ++ " internal edges")

def dependencies (g : DependencyGraph) (path : Text) : List Text := g.links.successors path

def dependents (g : DependencyGraph) (path : Text) : List Text := g.links.predecessors path

/-- Every import that leads nowhere, with the module it stands in. -/
def unresolvedImports (nodes : NodeMap) : List (Text × ImportStatement) :=
  nodes.entries.flatMap fun e => e.2.unresolved.map fun s => (e.1, s)

end DependencyGraph

end ModuleAudit
