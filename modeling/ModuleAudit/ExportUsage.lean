import ModuleAudit.DependencyGraph.Basic
import ModuleAudit.Log

/-!
# Export usage

Every module that declares exports has a ledger with one entry per exported
name. One pass over all bindings of all internal imports enters each binding as
a consumer, or reports the name it asks for in vain. What has no consumer in the
end is unused.

Data modules have no ledger: their keys are content, not an interface. An export
that forwards all names of another module declares none.
-/

namespace ModuleAudit

/-- A binding that uses an export. -/
structure Consumer where
  module : Text
  line : Option Int
  kind : BindingKind
deriving DecidableEq, Repr

/-- An export with what uses it. -/
structure LedgerEntry where
  decl : ExportDecl
  consumers : List Consumer
deriving DecidableEq, Repr

def LedgerEntry.isUsed (e : LedgerEntry) : Bool := !e.consumers.isEmpty

/-- The exports of one module by their names. -/
abbrev Ledger := Table Text LedgerEntry

structure UnusedExport where
  module : Text
  name : Text
  line : Option Int
deriving DecidableEq, Repr

/-- A name that an import asks for and its target does not export. -/
structure MissingExport where
  importer : Text
  target : Text
  name : Text
  line : Option Int
  specifier : Text
deriving DecidableEq, Repr

/-- The ledgers of all modules, and the names asked for in vain. -/
structure UsageReport where
  ledgers : Table Text Ledger
  missing : List MissingExport

namespace Ledger

/-- The ledger of a module before any import is looked at. Of two exports with
one name the first is entered. -/
def ofExports (exports : List ExportDecl) : Ledger :=
  exports.foldl
    (fun ledger decl =>
      if decl.isStar || ledger.contains decl.name then ledger
      else ledger.insert decl.name { decl, consumers := [] })
    .empty

end Ledger

def LedgerEntry.addConsumer (c : Consumer) (e : LedgerEntry) : LedgerEntry :=
  { e with consumers := e.consumers ++ [c] }

/-- One binding of an internal import, with the module it stands in. -/
structure BindingUse where
  importer : Text
  import_ : InternalImport
  binding : Binding

def BindingUse.consumer (u : BindingUse) : Consumer where
  module := u.importer
  line := u.import_.statement.line
  kind := u.binding.kind

/-- The missing export that a binding is if its name is not exported. -/
def BindingUse.missing (u : BindingUse) : MissingExport where
  importer := u.importer
  target := u.import_.target
  name := u.binding.requestedName
  line := u.import_.statement.line
  specifier := u.import_.statement.source

/-- Every binding of every internal import, in order. -/
def bindingUses (nodes : NodeMap) : List BindingUse :=
  nodes.entries.flatMap fun e =>
    e.2.imports.flatMap fun i =>
      i.statement.bindings.map fun b => { importer := e.1, import_ := i, binding := b }

namespace UsageReport

/-- The report before any import is looked at. -/
def start (nodes : NodeMap) : UsageReport where
  ledgers := .ofList (nodes.entries.filterMap fun e =>
    if e.2.exports.isEmpty || e.2.fileType = .data then none
    else some (e.1, Ledger.ofExports e.2.exports))
  missing := []

/-- Enter one binding. A named binding uses the export of its name or misses it,
a namespace uses every export, and a default import uses the export `default` if
there is one. -/
def enter (r : UsageReport) (u : BindingUse) : UsageReport :=
  match r.ledgers.get? u.import_.target with
  | none => r
  | some ledger =>
    let update (ledger : Ledger) : UsageReport :=
      { r with ledgers := r.ledgers.insert u.import_.target ledger }
    match u.binding.kind with
    | .named =>
      let name := u.binding.requestedName
      if ledger.contains name then
        update (ledger.modify name (LedgerEntry.addConsumer u.consumer))
      else { r with missing := r.missing ++ [u.missing] }
    | .whole => update (ledger.map fun _ => LedgerEntry.addConsumer u.consumer)
    | .default => update (ledger.modify "default" (LedgerEntry.addConsumer u.consumer))

/-- The usage of all exports of the modules. -/
def ofNodes (nodes : NodeMap) : UsageReport := (bindingUses nodes).foldl enter (start nodes)

/-- The exports that nothing uses, in the order of their modules. -/
def unused (r : UsageReport) : List UnusedExport :=
  r.ledgers.entries.flatMap fun m =>
    m.2.entries.filterMap fun e =>
      if e.2.isUsed then none else some { module := m.1, name := e.1, line := e.2.decl.line }

def counts (r : UsageReport) : Table Text (Table Text Nat) :=
  r.ledgers.map fun _ ledger => ledger.map fun _ e => e.consumers.length

def journal (r : UsageReport) : LogLine :=
  .info .usage ("Export usage: " ++ toString r.unused.length ++ " unused, " ++
    toString r.missing.length ++ " missing across " ++ toString r.ledgers.size ++
    " modules with exports")

end UsageReport

end ModuleAudit
