import SourceAudit.Text.Lines
import SourceAudit.Text.Utf8

/-!
# File paths

A path is a root and a list of components. `FilePath.literal` keeps what a system call sees, so that a
slash at the end asks for a directory; `FilePath.ofText` gives the normal form, without empty
components and dots, in which paths are shown and compared.
-/

namespace SourceAudit

/-- A path: what it starts from, and its components. Components are neither empty nor do they hold
slashes where a path comes from a text. -/
structure FilePath where
  /-- One or two slashes, or nothing for a relative path. -/
  root : String
  components : List String
  deriving DecidableEq

namespace FilePath

/-- The slashes that a path starts with; more than two count as one. -/
def rootOf (text : String) : String :=
  match (text.toList.takeWhile (· == '/')).length with
  | 0 => ""
  | 2 => "//"
  | _ => "/"

/-- The parts of a path between slashes. -/
def split (text : String) : List String :=
  (Text.splitOn '/' text.toList).map String.ofList

/-- A path as the system reads it: a slash at the end is a component that stays in place. -/
def literal (text : String) : FilePath :=
  let parts := (split text).filter (· != "")
  ⟨rootOf text, if text.endsWith "/" then parts ++ ["."] else parts⟩

/-- A path in normal form. Components that go up are kept, as what they lead to depends on the tree. -/
def ofText (text : String) : FilePath :=
  ⟨rootOf text, (split text).filter fun part => part != "" && part != "."⟩

/-- A path as text. The empty relative path is a dot, so that no path is shown as nothing. -/
def text (path : FilePath) : String :=
  if path.root = "" ∧ path.components = [] then "."
  else path.root ++ "/".intercalate path.components

/-- The last component, or nothing for a path without components. -/
def name (path : FilePath) : String :=
  path.components.getLast?.getD ""

/-- The path without its last component. A path without components is its own parent. -/
def parent (path : FilePath) : FilePath :=
  ⟨path.root, path.components.dropLast⟩

/-- The path with another last component, so that it names something in the same directory. -/
def withName (path : FilePath) (name : String) : FilePath :=
  ⟨path.root, path.components.dropLast ++ [name]⟩

/-- The number of bytes of a name. The limits of the system count these and not characters. -/
def byteLength (name : String) : Nat :=
  (Text.Utf8.encode name.toList).length

/-- Whether a component holds a null character, which no system call takes. -/
def hasNull (path : FilePath) : Bool :=
  path.components.any fun name => name.toList.contains '\x00'

/-- The greatest number of bytes of one component. -/
def maxNameBytes : Nat := 255

/-- The number of bytes that a whole path must stay below. -/
def maxPathBytes : Nat := 4096

end FilePath

end SourceAudit
