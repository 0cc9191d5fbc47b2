import ModuleAudit.Analysis
import ModuleAudit.Proofs.DependencyGraph.Mirror
import ModuleAudit.Proofs.Record.Acceptance

/-!
# Surveys in closed form

A survey resolves with a resolver, which never fails. Its graph therefore has one
node for each accepted entry, in their order: the entry's imports placed by the
resolver, with the importers that name it. No module fails on the way.
-/

namespace ModuleAudit.Project

open DependencyGraph

variable (p : Project) (facts : FactMap)

/-- The root is that of the paths of the modules. -/
theorem root_eq_of_keys {facts facts' : FactMap}
    (keys : (facts'.modules p.limits).keys = (facts.modules p.limits).keys) :
    (p.survey facts').root = (p.survey facts).root := by
  change (given p.root).or (Path.commonRoot (facts'.modules p.limits).keys) = _
  rw [keys]
  rfl

/-- The resolver knows the paths of the modules. -/
theorem resolver_eq_of_keys {facts facts' : FactMap}
    (keys : (facts'.modules p.limits).keys = (facts.modules p.limits).keys) :
    (p.survey facts').resolver = (p.survey facts).resolver := by
  change Resolver.ofPaths (facts'.modules p.limits).keys (p.survey facts').root _ _ = _
  rw [p.root_eq_of_keys keys, keys]
  rfl

/-- The nodes of a survey before they have importers. -/
def plainNodes : NodeMap := (facts.modules p.limits).map (p.survey facts).resolver.nodeOf

def importers (path : Text) : List Importer :=
  ((internalImports (p.plainNodes facts)).filter fun e => e.2.target = path).map importerOf

def surveyNode (path : Text) (record : ModuleFacts) : ModuleNode :=
  { (p.survey facts).resolver.nodeOf path record with importedBy := p.importers facts path }

theorem nodes_survey :
    (p.survey facts).graph.nodes = (facts.modules p.limits).map (p.surveyNode facts) := by
  have plain : DependencyGraph.plainNodes (facts.modules p.limits)
      (p.survey facts).resolver.resolution = p.plainNodes facts := by
    rw [DependencyGraph.plainNodes, Resolver.buildOrBare_resolution, plainNodes]
  change (build (facts.modules p.limits) (p.survey facts).resolver.resolution {}).nodes = _
  rw [build_eq, plain, withImporters, plainNodes, Table.map_map]
  rfl

/-- A survey has a node for each accepted entry, in their order. -/
theorem entries_nodes_survey :
    (p.survey facts).graph.nodes.entries =
      (facts.accepted p.limits).map fun e => (e.1, p.surveyNode facts e.1 e.2) := by
  rw [nodes_survey, Table.entries_map, FactMap.entries_modules]

theorem get?_nodes_survey (path : Text) :
    (p.survey facts).graph.nodes.get? path =
      ((facts.modules p.limits).get? path).map (p.surveyNode facts path) := by
  rw [nodes_survey, Table.get?_map]

theorem keys_nodes_survey : (p.survey facts).graph.nodes.keys = (facts.modules p.limits).keys := by
  rw [nodes_survey, Table.keys_map]

theorem size_nodes_survey :
    (p.survey facts).graph.nodes.size = (facts.modules p.limits).size := by
  rw [← Table.length_keys, keys_nodes_survey, Table.length_keys]

/-- The links of a survey are entered import by import. -/
theorem links_survey :
    (p.survey facts).graph.links =
      (known (facts.modules p.limits).keys (internalImports (p.plainNodes facts))).foldl enterLink
        ((facts.modules p.limits).keys.foldl Digraph.addNode .empty) := by
  change (build (facts.modules p.limits) (p.survey facts).resolver.resolution {}).links = _
  rw [build_eq, DependencyGraph.plainNodes, Resolver.buildOrBare_resolution]
  rfl

/-- The links of a survey lead from an importer to what it imports. -/
theorem links_survey_iff (a b : Text) :
    (p.survey facts).graph.links.Links a b ↔
      b ∈ (facts.modules p.limits).keys ∧ importsInto (p.survey facts).graph.nodes a b ≠ [] := by
  by_cases hb : b ∈ (facts.modules p.limits).keys
  · simp only [hb, true_and]
    exact links_build_iff (facts.modules p.limits) (p.survey facts).resolver.resolution a hb
  · simp only [hb, false_and, iff_false]
    intro linked
    have nodes :=
      nodes_links_build (facts.modules p.limits) (p.survey facts).resolver.resolution
    exact hb (nodes ▸ linked.mem_nodes.2)

/-- The graph of a survey has no errors. -/
theorem errors_survey : (p.survey facts).graph.errors = [] := by
  change (build (facts.modules p.limits) (p.survey facts).resolver.resolution {}).errors = _
  rw [build_eq, List.nil_append, List.filterMap_eq_nil_iff]
  exact fun e _ => (p.survey facts).resolver.errorOf_resolution e

end ModuleAudit.Project
