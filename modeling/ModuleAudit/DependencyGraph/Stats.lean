import ModuleAudit.Decimal.Binary64
import ModuleAudit.DependencyGraph.Basic
import ModuleAudit.Digraph.Reach

/-!
# Statistics of the dependency graph

Counts of modules and imports, and two ratios of the links: the share of
possible links that exist, and the average number of links at a module.
-/

namespace ModuleAudit

structure GraphStats where
  modules : Nat
  internalEdges : Nat
  externalEdges : Nat
  packages : Nat
  builtins : Nat
  unresolved : Nat
  isConnected : Bool
  density : Binary64
  averageDegree : Binary64

/-- The number of imports that lead to modules of the project. -/
def NodeMap.internalCount (nodes : NodeMap) : Nat :=
  (nodes.values.flatMap ModuleNode.imports).length

def NodeMap.externals (nodes : NodeMap) : List ExternalImport :=
  nodes.values.flatMap ModuleNode.external

def NodeMap.originCount (nodes : NodeMap) (origin : Origin) : Nat :=
  (NodeMap.externals nodes).countP fun e => e.origin = origin

def NodeMap.unresolvedCount (nodes : NodeMap) : Nat :=
  (nodes.values.flatMap ModuleNode.unresolved).length

namespace Digraph

variable {α ε : Type}

/-- The share of the possible edges between different nodes that exist. A graph
with fewer than two nodes has the share zero. -/
def density (g : Digraph α ε) : Binary64 :=
  let n := g.nodes.length
  if n ≤ 1 then .zero false else .ofRatio false g.edges.length (n * (n - 1))

/-- The number of edges at a node on average; every edge counts at both ends. -/
def averageDegree (g : Digraph α ε) : Binary64 :=
  let n := g.nodes.length
  if n = 0 then .zero false else .ofRatio false (2 * g.edges.length) n

end Digraph

def DependencyGraph.stats (g : DependencyGraph) : GraphStats where
  modules := g.links.nodes.length
  internalEdges := NodeMap.internalCount g.nodes
  externalEdges := (NodeMap.externals g.nodes).length
  packages := NodeMap.originCount g.nodes .package
  builtins := NodeMap.originCount g.nodes .builtin
  unresolved := NodeMap.unresolvedCount g.nodes
  isConnected := g.links.isConnected
  density := g.links.density
  averageDegree := g.links.averageDegree

end ModuleAudit
