import ModuleAudit.Digraph.Basic
import ModuleAudit.Record.Basic

/-!
# The dependency graph

Each module has a node with its imports, sorted by where they lead: to a module
of the project, out of the project, or nowhere. A node also lists who imports
it. The links between modules form a directed graph whose edges remember the
first import statement behind them and count all of them.
-/

namespace ModuleAudit

/-- An import that leads to a module of the project. -/
structure InternalImport where
  statement : ImportStatement
  target : Text
deriving DecidableEq, Repr

/-- Where an import leads that is not relative. -/
inductive Origin where
  | package
  | builtin
deriving DecidableEq, Repr

def Origin.name : Origin → Text
  | .package => "external-package"
  | .builtin => "external-builtin"

/-- An import that leads out of the project. -/
structure ExternalImport where
  statement : ImportStatement
  origin : Origin
deriving DecidableEq, Repr

/-- An import of a module, seen from that module. -/
structure Importer where
  module : Text
  line : Option Int
  form : Text
deriving DecidableEq, Repr

structure ModuleNode where
  fileType : FileType
  exports : List ExportDecl
  imports : List InternalImport := []
  importedBy : List Importer := []
  external : List ExternalImport := []
  unresolved : List ImportStatement := []
deriving DecidableEq, Repr

namespace ModuleNode

/-- A module of which only the facts about itself are known. -/
def ofFacts (facts : ModuleFacts) : ModuleNode where
  fileType := facts.fileType
  exports := facts.exports

/-- The number of imports that lead to modules of the project. -/
def fanOut (n : ModuleNode) : Nat := n.imports.length

/-- The number of imports of this module. -/
def fanIn (n : ModuleNode) : Nat := n.importedBy.length

end ModuleNode

abbrev NodeMap := Table Text ModuleNode

/-- What an edge between two modules remembers: the first import behind it, and
how many there are. -/
structure Link where
  specifier : Text
  line : Option Int
  count : Nat
deriving DecidableEq, Repr

/-- The dependency graph of a project, with the modules whose imports could not
be followed. -/
structure DependencyGraph where
  nodes : NodeMap := .empty
  links : Digraph Text Link := .empty
  errors : List ModuleError := []

end ModuleAudit
