import SourceAudit.Decimal.Digits
import SourceAudit.FileTree.Path
import SourceAudit.Text.Quoted

/-!
# File trees

A file tree holds files and directories by their location, the list of names from the root on.
Operations fail as a file system does: on a missing name, on a file where a directory is asked for,
on a directory where a file is, and on a name that is too long.
-/

namespace SourceAudit

/-- Why a file operation fails. A tree by itself causes most of these errors; permissions and full
disks are beyond it. -/
inductive FileError
  | notFound
  | exists
  | notDirectory
  | isDirectory
  | nameTooLong
  | permissionDenied
  | busy
  /-- An error that no tree causes, such as a full disk. -/
  | other (code : Nat) (text : String)
  deriving DecidableEq

namespace FileError

/-- The number of an error, by which the system names it and messages show it. -/
def number : FileError → Nat
  | .notFound => 2
  | .exists => 17
  | .notDirectory => 20
  | .isDirectory => 21
  | .nameTooLong => 36
  | .permissionDenied => 13
  | .busy => 16
  | .other code _ => code

/-- The wording of an error. -/
def description : FileError → String
  | .notFound => "No such file or directory"
  | .exists => "File exists"
  | .notDirectory => "Not a directory"
  | .isDirectory => "Is a directory"
  | .nameTooLong => "File name too long"
  | .permissionDenied => "Permission denied"
  | .busy => "Device or resource busy"
  | .other _ text => text

/-- The number and the wording of an error. -/
def message (error : FileError) : String :=
  "[Errno " ++ Decimal.natText error.number ++ "] " ++ error.description

end FileError

/-- A failed file operation: the error, the path it was asked for, and for a renaming the new path.
The paths are those that the operation was given, not the locations that they lead to. -/
structure FileFault where
  error : FileError
  path : String
  target : Option String := none
  deriving DecidableEq

/-- The wording of a failed operation. Paths are shown between quotes, so that blanks and control
characters in them can be told. -/
def FileFault.message (fault : FileFault) : String :=
  fault.error.message ++ ": " ++ Text.quote fault.path
    ++ match fault.target with
      | none => ""
      | some target => " -> " ++ Text.quote target

/-- A place in a file tree: the names from the root on. Dots and steps up have been followed, so
that equal places are equal lists. -/
abbrev Location := List String

/-- What stands at a location. -/
inductive FileEntry
  | file (bytes : List UInt8)
  | directory
  deriving DecidableEq

/-- Files and directories by location, and the location that relative paths start from. Of several
entries for one location the first counts. -/
structure FileTree where
  entries : List (Location × FileEntry)
  workingDirectory : Location

namespace FileTree

/-- What stands at a location. The root is always a directory, whether or not there is an entry for
it. -/
def get? (tree : FileTree) (location : Location) : Option FileEntry :=
  if location = [] then some .directory
  else (tree.entries.find? (·.1 = location)).map (·.2)

/-- Take away the entry at a location. -/
def remove (tree : FileTree) (location : Location) : FileTree :=
  { tree with entries := tree.entries.filter (·.1 ≠ location) }

/-- Put an entry at a location, in place of the one that is there. What stands at any other location
stays. -/
def set (tree : FileTree) (location : Location) (entry : FileEntry) : FileTree :=
  { tree with entries := (location, entry) :: (tree.remove location).entries }

/-- Follow components from a location. Each one needs a directory to start from, also a dot or a
step up; only the last one may lead to a place where nothing stands. -/
def follow (tree : FileTree) (start : Location) : List String → Except FileError Location
  | [] => .ok start
  | name :: rest =>
    match tree.get? start with
    | none => .error .notFound
    | some (.file _) => .error .notDirectory
    | some .directory =>
      if name = "." then tree.follow start rest
      else if name = ".." then tree.follow start.dropLast rest
      else if FilePath.maxNameBytes < FilePath.byteLength name then .error .nameTooLong
      else tree.follow (start ++ [name]) rest

/-- The location that a path leads to, where something may stand or not. A path that is too long as
a whole is refused before it is followed. -/
def locate (tree : FileTree) (path : FilePath) : Except FileError Location :=
  if FilePath.maxPathBytes ≤ FilePath.byteLength path.text then .error .nameTooLong
  else tree.follow (if path.root = "" then tree.workingDirectory else []) path.components

/-- The bytes of the file at a path. A directory has none, and is refused by an error of its own. -/
def read (tree : FileTree) (path : FilePath) : Except FileError (List UInt8) := do
  match tree.get? (← tree.locate path) with
  | some (.file bytes) => .ok bytes
  | some .directory => .error .isDirectory
  | none => .error .notFound

/-- Whether something stands at a path. A missing part and a null character answer it; other errors
remain. -/
def isPresent (tree : FileTree) (path : FilePath) : Except FileError Bool :=
  if path.hasNull then .ok false
  else
    match tree.locate path with
    | .ok location => .ok (tree.get? location).isSome
    | .error .nameTooLong => .error .nameTooLong
    | .error _ => .ok false

/-- Whether a directory stands at a path. Any error on the way there counts as no. -/
def isDirectory (tree : FileTree) (path : FilePath) : Bool :=
  match tree.locate path with
  | .ok location => tree.get? location = some .directory
  | .error _ => false

/-- Make one directory. The one above it must be there, and nothing else may stand at the path. -/
def makeDirectory (tree : FileTree) (path : FilePath) : Except FileError FileTree := do
  let location ← tree.locate path
  match tree.get? location with
  | some _ => .error .exists
  | none => .ok (tree.set location .directory)

/-- Write a file, in place of one that is there. The directory of the file must be there, and no
directory may stand at the path. -/
def write (tree : FileTree) (path : FilePath) (bytes : List UInt8) : Except FileError FileTree := do
  let location ← tree.locate path
  match tree.get? location with
  | some .directory => .error .isDirectory
  | _ => .ok (tree.set location (.file bytes))

/-- Move a file, in place of one that is at the new path. Directories stay where they are, and nothing
can be moved to a path that ends in going up. -/
def replace (tree : FileTree) (source target : FilePath) : Except FileError FileTree := do
  let origin ← tree.locate source
  let destination ← tree.locate target
  if target.name = ".." then .error .busy
  else match tree.get? origin, tree.get? destination with
  | none, _ => .error .notFound
  | some .directory, _ => .error .isDirectory
  | some (.file _), some .directory => .error .isDirectory
  | some (.file bytes), _ => .ok ((tree.remove origin).set destination (.file bytes))

end FileTree

end SourceAudit
