import ModuleAudit.Path
import ModuleAudit.Table
import ModuleAudit.Text.Quoted

/-!
# File trees

A tree of directories and files as a value. Paths are followed component by
component: `..` leads to the directory above, and only a directory has
components below it. Reading and writing fail with the causes that the system
gives for a path that is missing, passes through a file, or names a directory.

The system knows a name by its bytes. Two spellings of one name lead to the same
file, and a text without bytes leads nowhere.
-/

namespace ModuleAudit

inductive FileError where
  | missing
  | denied
  | notDirectory
  | isDirectory
deriving DecidableEq, Repr

namespace FileError

def code : FileError → Nat
  | .missing => 2
  | .denied => 13
  | .notDirectory => 20
  | .isDirectory => 21

def wording : FileError → Text
  | .missing => "No such file or directory"
  | .denied => "Permission denied"
  | .notDirectory => "Not a directory"
  | .isDirectory => "Is a directory"

def message (e : FileError) (path : Text) : Text :=
  "[Errno " ++ toString e.code ++ "] " ++ e.wording ++ ": " ++ Text.quoted path

end FileError

inductive FileLook where
  | missing
  | refused (error : FileError)
  | file (content : ByteArray)

/-- A name as the system keeps it, byte by byte. -/
abbrev FileName := List UInt8

namespace FileName

def ofString (s : String) : FileName := s.toUTF8.toList

def here : FileName := ofString "."

def up : FileName := ofString ".."

/-- The bytes of one code point. A character has its UTF-8 bytes. The surrogates
from `DC80` to `DCFF` stand for the single bytes from `80` to `FF`, and the others
for nothing. -/
def bytes? (c : CodePoint) : Option (List UInt8) :=
  match c.char? with
  | some d => some (String.utf8EncodeChar d)
  | none =>
    if 0xDC80 ≤ c.value ∧ c.value ≤ 0xDCFF then some [UInt8.ofNat (c.value - 0xDC00)] else none

/-- The name that a text spells. -/
def ofText? (text : Text) : Option FileName := (text.mapM bytes?).map List.flatten

end FileName

/-- A place in a tree: the names from the root to it. -/
abbrev Place := List FileName

/-- The directories and files below the root. -/
structure FileTree where
  files : Table Place (Option ByteArray) := .empty

namespace FileTree

/-- What is at a place: a file with its content, or a directory. -/
inductive Node where
  | directory
  | file (content : ByteArray)

/-- What is at a place. The root is a directory. -/
def node? (t : FileTree) (place : Place) : Option Node :=
  match place with
  | [] => some .directory
  | _ =>
    match t.files.get? place with
    | some none => some .directory
    | some (some content) => some (.file content)
    | none => none

/-- Put a directory at a place, if nothing is there. -/
def addDirectory (t : FileTree) (place : Place) : FileTree :=
  if (t.node? place).isSome then t else { files := t.files.insert place none }

/-- Put directories at the place and above it. -/
def addDirectories (t : FileTree) (place : Place) : FileTree :=
  (List.range place.length).foldl (fun t depth => t.addDirectory (place.take (depth + 1))) t

/-- Put a file at a place, with the directories above it. -/
def addFile (t : FileTree) (place : Place) (content : ByteArray) : FileTree :=
  let t := t.addDirectories place.dropLast
  { files := t.files.insert place (some content) }

def follow (t : FileTree) (place : Place) : List FileName → Except FileError Place
  | [] => .ok place
  | name :: rest =>
    match t.node? place with
    | some .directory =>
      if name = [] || name = .here then follow t place rest
      else if name = .up then follow t place.dropLast rest
      else if (t.node? (place ++ [name])).isSome then follow t (place ++ [name]) rest
      else .error .missing
    | _ => .error .notDirectory

def namesOf? (path : Text) : Option (List FileName) :=
  (Path.segments path).mapM FileName.ofText?

/-- The place from which a path is followed. -/
def startOf (cwd : Place) (path : Text) : Place := if Path.isAbsolute path then [] else cwd

def locate (t : FileTree) (cwd : Place) (path : Text) : Except FileError Place :=
  match namesOf? path with
  | none => .error .missing
  | some names =>
    if path.isEmpty then .error .missing else t.follow (startOf cwd path) names

def look (t : FileTree) (cwd : Place) (path : Text) : FileLook :=
  match t.locate cwd path with
  | .error _ => .missing
  | .ok place =>
    match t.node? place with
    | some (.file content) => .file content
    | some .directory => .refused .isDirectory
    | none => .missing

/-- The place at which a file with this path would be created. A path that ends
with a slash or a dot names a directory. -/
def locateNew (t : FileTree) (cwd : Place) (path : Text) : Except FileError Place :=
  let proper := Path.trimSlashes path
  match namesOf? proper with
  | none => .error .missing
  | some names =>
    if path.isEmpty then .error .missing
    else
      match t.follow (startOf cwd path) names.dropLast with
      | .error e => .error e
      | .ok parent =>
        match t.node? parent, names.getLast? with
        | some .directory, some name =>
          if proper ≠ path || name = [] || name = .here || name = .up then .error .isDirectory
          else .ok (parent ++ [name])
        | _, _ => .error .notDirectory

def write (t : FileTree) (cwd : Place) (path : Text) (content : ByteArray) :
    Except FileError FileTree :=
  match t.locateNew cwd path with
  | .error e => .error e
  | .ok place =>
    match t.node? place with
    | some .directory => .error .isDirectory
    | _ => .ok { files := t.files.insert place (some content) }

end FileTree

end ModuleAudit
