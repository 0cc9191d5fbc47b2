import ModuleAudit.Text.Basic

/-!
# Slash-separated paths

Purely lexical operations on paths: joining, the parent directory, the last
component and its extension, normal form, and the path from one directory to
another. No file is looked at.

A normal path is determined by its leading slashes and its segments, and
`reduce` is the only place where `.` and `..` have a meaning.
-/

namespace ModuleAudit.Path

/-- The segment that names the directory above. -/
def up : Text := ['.', '.']

/-- The segment that names the directory itself. -/
def here : Text := ['.']

def slash : CodePoint := '/'

def dot : CodePoint := '.'

/-- The segments between the slashes, empty ones included. -/
def segments (path : Text) : List Text := path.splitOn slash

def joinSegments (segments : List Text) : Text := List.intercalate [slash] segments

def isAbsolute (path : Text) : Bool := path.head? == some slash

/-- A path read from a directory; an absolute path stands for itself. -/
def join (directory path : Text) : Text :=
  if isAbsolute path then path
  else if directory.isEmpty || directory.getLast? == some slash then directory ++ path
  else directory ++ slash :: path

def trimSlashes (path : Text) : Text := (path.reverse.dropWhile fun c => c = slash).reverse

/-- The directory a path stands in: what is before the last component, without
the slashes that separate it unless there is nothing else. -/
def parent (path : Text) : Text :=
  let head := (path.reverse.dropWhile fun c => c ≠ slash).reverse
  if head.all fun c => c = slash then head else trimSlashes head

/-- The last component. -/
def base (path : Text) : Text := (path.reverse.takeWhile fun c => c ≠ slash).reverse

/-- The extension of the last component with its dot, or the empty text. Dots at
the start of a component belong to its name. -/
def extension (path : Text) : Text :=
  let reversed := (base path).reverse
  match reversed.dropWhile fun c => c ≠ dot with
  | _ :: before =>
    if before.any fun c => c ≠ dot then
      dot :: (reversed.takeWhile fun c => c ≠ dot).reverse
    else []
  | [] => []

def stem (path : Text) : Text := path.take (path.length - (extension path).length)

/-- The slashes a normal path keeps at its start: two if there are exactly two,
else one if there is one. -/
def root (path : Text) : Text :=
  match (path.takeWhile fun c => c = slash).length with
  | 0 => []
  | 2 => [slash, slash]
  | _ => [slash]

/-- Enter one segment. `entered` lists the segments so far, the last first; at
the root there is no directory above. -/
def enter (absolute : Bool) (entered : List Text) (segment : Text) : List Text :=
  if segment = [] ∨ segment = here then entered
  else if segment = up then
    match entered with
    | [] => if absolute then [] else [up]
    | last :: before => if last = up then up :: entered else before
  else segment :: entered

/-- The segments that remain when `.` and `..` have been followed. -/
def reduce (absolute : Bool) (segments : List Text) : List Text :=
  (segments.foldl (enter absolute) []).reverse

/-- The normal form: no `.`, no empty segment, `..` only at the start of a
relative path. The empty path is `.`. -/
def normalize (path : Text) : Text :=
  let root := root path
  let normal := root ++ joinSegments (reduce (!root.isEmpty) (segments path))
  if normal.isEmpty then here else normal

/-- The normal form of a path read from a directory. -/
def absolute (directory path : Text) : Text := normalize (join directory path)

/-- The segments of a path read from the root. -/
def place (path : Text) : List Text :=
  (segments (absolute [slash] path)).filter fun segment => !segment.isEmpty

def commonStart {α : Type} [DecidableEq α] : List α → List α → List α
  | a :: as, b :: bs => if a = b then a :: commonStart as bs else []
  | _, _ => []

def steps (start place : List Text) : List Text :=
  let shared := (commonStart start place).length
  List.replicate (start.length - shared) up ++ place.drop shared

/-- The path from a directory to a path; the empty path leads nowhere. There is no
working directory here: a relative path, or a relative directory, is read from `/`. The
paths of modules are absolute, and the command makes its root absolute before this. -/
def relative? (path start : Text) : Option Text :=
  if path.isEmpty then none
  else
    let steps := steps (place start) (place path)
    some (if steps.isEmpty then here else joinSegments steps)

/-- The path as the project spells it: from the root directory if there is one
that is not empty, else as it is. -/
def fromRoot (path : Text) (root : Option Text) : Text :=
  match root with
  | none => path
  | some root => if root.isEmpty then path else (relative? path root).getD path

/-- The segments by which paths are compared for a common directory. -/
def properSegments (path : Text) : List Text :=
  (segments path).filter fun segment => segment ≠ [] ∧ segment ≠ here

/-- The longest start that all lists of a non-empty collection share. -/
def commonStartAll {α : Type} [DecidableEq α] : List (List α) → List α
  | [] => []
  | first :: rest => rest.foldl commonStart first

/-- The deepest path above all paths, if all are absolute or none is. -/
def common? (paths : List Text) : Option Text :=
  match paths with
  | [] => none
  | first :: rest =>
    let absolute := isAbsolute first
    if rest.all fun path => isAbsolute path == absolute then
      some ((if absolute then [slash] else []) ++
        joinSegments (commonStartAll (paths.map properSegments)))
    else none

/-- The deepest directory that holds every path, if there is one. -/
def commonRoot (paths : List Text) : Option Text := common? (paths.map parent)

end ModuleAudit.Path
