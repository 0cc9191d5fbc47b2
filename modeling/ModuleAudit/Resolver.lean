import ModuleAudit.Path
import ModuleAudit.Table
import ModuleAudit.Text.Matching

/-!
# Resolution of import specifiers

A specifier that starts with `./` or `../` names a module of the project. It is
read from the importer's directory, and the first candidate that is a known
path is its target: the path itself, the path under a known extension, and the
index file of a directory of that name.

Resolution looks at the candidates only, so it is a function of the set of
known paths. The spellings table is a hint for readers and resolves nothing.
-/

namespace ModuleAudit

/-- The file extensions of code modules, unless configured otherwise. -/
def defaultExtensions : List Text := [".js", ".jsx", ".ts", ".tsx"]

/-- The file extensions of data modules, unless configured otherwise. -/
def defaultDataExtensions : List Text := [".json", ".yaml", ".yml"]

/-- Whether a specifier can name a module of the project. -/
def isRelativeSpecifier (specifier : Text) : Bool :=
  Text.begins "./" specifier || Text.begins "../" specifier

/-- A name without its extension; a name that would become empty stays. -/
def plainName (name : Text) : Text :=
  let stem := Path.stem name
  if stem.isEmpty then name else stem

/-- The known modules and the conventions by which specifiers name them. -/
structure Resolver where
  paths : List Text
  root : Option Text
  extensions : List Text
  dataExtensions : List Text

namespace Resolver

/-- The resolver for a list of module paths. Without a root, or with an empty
one, the deepest common directory is the root. -/
def ofPaths (paths : List Text) (root : Option Text) (extensions : List Text)
    (dataExtensions : List Text) : Resolver where
  paths := paths
  root := (given root).or (Path.commonRoot paths)
  extensions := extensions
  dataExtensions := dataExtensions

/-- Every known extension, code before data. -/
def knownExtensions (r : Resolver) : List Text := r.extensions ++ r.dataExtensions

def indexProbes (r : Resolver) (directory : Text) : List Text :=
  r.knownExtensions.map fun extension => Path.join directory ("index" ++ extension)

/-- The files a path names by itself. A path with a code extension may stand for
the same file under another code extension, a path with a data extension only
for itself, and any other path for a file under each known extension. -/
def fileProbes (r : Resolver) (path : Text) : List Text :=
  let extension := Path.extension path
  if extension ∈ r.extensions then
    let stem := if extension.isEmpty then [] else Path.stem path
    path :: (r.extensions.filter fun other => other ≠ extension).map fun other => stem ++ other
  else if extension ∈ r.dataExtensions then [path]
  else path :: r.knownExtensions.map fun extension => path ++ extension

/-- The path a specifier names when it is read from the importer's directory. -/
def target (specifier importer : Text) : Text :=
  Path.normalize (Path.join (Path.parent importer) specifier)

/-- The paths a specifier may name, in the order in which they are tried. A
specifier that ends with a slash names a directory. -/
def candidates (r : Resolver) (specifier importer : Text) : List Text :=
  let path := target specifier importer
  if Text.ends "/" specifier then r.indexProbes path
  else r.fileProbes path ++ r.indexProbes path

/-- The module a relative specifier names, if it is known. -/
def resolve (r : Resolver) (specifier importer : Text) : Option Text :=
  if isRelativeSpecifier specifier then
    (r.candidates specifier importer).find? fun candidate => r.paths.contains candidate
  else none

/-- The spellings under which a module is listed: its path, its path from the
root, its path without a code extension, and its file name. -/
def spellingsOf (r : Resolver) (path : Text) : List Text :=
  [path, Path.fromRoot path r.root] ++
    (if Path.extension path ∈ r.extensions then [Path.stem path] else []) ++ [Path.base path]

/-- Every spelling with the module that was listed under it last. -/
def spellings (r : Resolver) : Table Text Text :=
  Table.ofList (r.paths.flatMap fun path => (r.spellingsOf path).map fun key => (key, path))

/-- The module last listed under a spelling. -/
def lookupHint (r : Resolver) (key : Text) : Option Text := r.spellings.get? key

/-- Enter a module under its file name without the extension. -/
def enterName (index : Table Text (List Text)) (path : Text) : Table Text (List Text) :=
  let name := plainName (Path.base path)
  index.insert name ((index.get? name).getD [] ++ [path])

/-- File names without their extension, each with its modules in order. -/
def byPlainName (r : Resolver) : Table Text (List Text) :=
  (Text.sort r.paths).foldl enterName .empty

end Resolver

end ModuleAudit
