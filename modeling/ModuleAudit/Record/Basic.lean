import ModuleAudit.Table
import ModuleAudit.Text.Basic

/-!
# Module facts

What is known about one module: its kind of file, its import statements and its
exports. An import statement binds names of its target; an export may forward
another module's names without declaring any of its own.
-/

namespace ModuleAudit

inductive FileType where
  | code
  | data
  | css
deriving DecidableEq, Repr

def FileType.name : FileType → Text
  | .code => "code"
  | .data => "data"
  | .css => "css"

/-- What an import binds: one named export, the default export, or the namespace
of all exports. -/
inductive BindingKind where
  | named
  | default
  | whole
deriving DecidableEq, Repr

def BindingKind.name : BindingKind → Text
  | .named => "named"
  | .default => "default"
  | .whole => "namespace"

/-- One name that an import statement binds. -/
structure Binding where
  kind : BindingKind
  localName : Text
  importedName : Option Text
deriving DecidableEq, Repr

/-- The name that is looked up among the target's exports: the imported name
unless it is missing or empty. -/
def Binding.requestedName (b : Binding) : Text :=
  match b.importedName with
  | some name => if name.isEmpty then b.localName else name
  | none => b.localName

/-- One import statement. `form` is the word for the way it is written. -/
structure ImportStatement where
  source : Text
  line : Option Int
  bindings : List Binding
  form : Text
deriving DecidableEq, Repr

inductive ExportKind where
  | named
  | default
  | reExport
deriving DecidableEq, Repr

def ExportKind.name : ExportKind → Text
  | .named => "named"
  | .default => "default"
  | .reExport => "re-export"

structure ExportDecl where
  name : Text
  kind : ExportKind
  line : Option Int
  source : Option Text
deriving DecidableEq, Repr

/-- Whether an export forwards all names of another module. -/
def ExportDecl.isStar (e : ExportDecl) : Bool := e.kind = .reExport && e.name = "*"

structure ModuleFacts where
  fileType : FileType
  imports : List ImportStatement
  exports : List ExportDecl
deriving DecidableEq, Repr

/-- The modules of a project by their paths. -/
abbrev ModuleMap := Table Text ModuleFacts

/-- A module that takes no part in an analysis, or only part of it, and why. -/
structure ModuleError where
  module : Text
  message : Text
deriving DecidableEq, Repr

end ModuleAudit
