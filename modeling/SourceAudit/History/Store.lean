import SourceAudit.FileTree.Basic
import SourceAudit.History.Document

/-!
# History stores

A store keeps entries in memory or in one document of a file tree. A document is never changed in
place: a save writes the new document to a temporary file beside it and then puts that file in its
place. `Save` records every tree on the way, so that what stands at the path between the steps can be
told, and a save can be interrupted at any of its steps.
-/

namespace SourceAudit

/-- Why a store cannot be read or written. The errors that the store reports name its path; the
others come through as they are raised. -/
inductive HistoryError
  | unreadable (path : FilePath) (fault : FileFault)
  | invalid (path : FilePath) (failure : Validation.Failure)
  | unwritable (path : FilePath) (fault : FileFault)
  /-- The file system does not even say whether the document exists. -/
  | uninspectable (fault : FileFault)
  /-- The path holds a null character, so nothing can be written there. -/
  | nullInPath
  /-- A line number has too many digits to be written. -/
  | numberTooLong

namespace HistoryError

/-- The wording of an error. Where the store reports an error, it says first whether the reading or
the writing failed. -/
def message : HistoryError → String
  | .unreadable path fault => "Failed to read history from " ++ path.text ++ ": " ++ fault.message
  | .invalid path failure => "Failed to read history from " ++ path.text ++ ": " ++ failure.message
  | .unwritable path fault => "Failed to write history to " ++ path.text ++ ": " ++ fault.message
  | .uninspectable fault => fault.message
  | .nullInPath => "embedded null byte"
  | .numberTooLong => Decimal.tooLongMessage

/-- Whether the store itself reports the error. An error of inspection passes through it, and so does
a path or a number that cannot be used at all. -/
def isReported : HistoryError → Bool
  | .uninspectable _ => false
  | .nullInPath => false
  | .numberTooLong => false
  | _ => true

end HistoryError

/-- The steps of a save that the system can stop with an error. The question whether the document exists
is none of them: what it answers with is up to the tree. -/
inductive SaveStep
  | read
  | makeParents
  | openTemporary
  | writeTemporary
  | replace
  deriving DecidableEq

/-- An error that the system raises at one step, whatever the tree holds. The step may have been done
in part: some of the missing directories have been made, or some bytes have been written. -/
structure Interruption where
  step : SaveStep
  error : FileError
  progress : Nat

/-- What a save did: the trees after its file operations, in order, and its outcome. A save that
changes nothing has no trees. -/
structure Save where
  states : List FileTree
  outcome : Except HistoryError HistoryEntry

/-- The tree that a save leaves: the last one on its way, or the tree before it. -/
def Save.finalTree (save : Save) (tree : FileTree) : FileTree :=
  save.states.getLast?.getD tree

namespace FileTree

/-- Make a directory and those above it that are missing, given the components from the last one on.
The trees on the way are returned, latest first, with the fault that stopped the work. -/
def makeDirectories (root : String) (states : List FileTree) (tree : FileTree) :
    List String → List FileTree × Option FileFault
  | [] => (states, none)
  | name :: above =>
    let path : FilePath := ⟨root, (name :: above).reverse⟩
    match tree.makeDirectory path with
    | .ok made => (made :: states, none)
    | .error .notFound =>
      match makeDirectories root states tree above with
      | (states, some fault) => (states, some fault)
      | (states, none) =>
        let tree := states.head?.getD tree
        match tree.makeDirectory path with
        | .ok made => (made :: states, none)
        | .error error =>
          if tree.isDirectory path then (states, none) else (states, some ⟨error, path.text, none⟩)
    | .error error =>
      if tree.isDirectory path then (states, none) else (states, some ⟨error, path.text, none⟩)

end FileTree

/-- A history kept in one document. It holds the path only, so what it has is told by the tree. -/
structure HistoryFile where
  path : FilePath

namespace HistoryFile

/-- The temporary file beside the document. Its name is the same for every save, so one that a
failed save has left is written over. -/
def temporary (file : HistoryFile) : FilePath :=
  file.path.withName (file.path.name ++ ".tmp")

/-- The fault of an interruption at a step. At any other step, and without an interruption, there is
none. -/
def interrupted (interruption : Option Interruption) (step : SaveStep) (path : FilePath) :
    Option FileFault :=
  match interruption with
  | some stop => if stop.step = step then some ⟨stop.error, path.text, none⟩ else none
  | none => none

/-- The entries of the document, oldest first; a missing document has none. Whether it is there is
asked before it is read, and only the reading can be interrupted. -/
def entriesUnder (file : HistoryFile) (interruption : Option Interruption) (tree : FileTree) :
    Except HistoryError (List HistoryEntry) :=
  match tree.isPresent file.path with
  | .error error => .error (.uninspectable ⟨error, file.path.text, none⟩)
  | .ok false => .ok []
  | .ok true =>
    match interrupted interruption .read file.path with
    | some fault => .error (.unreadable file.path fault)
    | none =>
      match tree.read file.path with
      | .error error => .error (.unreadable file.path ⟨error, file.path.text, none⟩)
      | .ok bytes =>
        match HistoryDocument.read bytes with
        | .ok entries => .ok entries
        | .error failure => .error (.invalid file.path failure)

/-- The entries of the document, oldest first. -/
def entries (file : HistoryFile) (tree : FileTree) : Except HistoryError (List HistoryEntry) :=
  file.entriesUnder none tree

/-- Make the directories above the document. An interruption leaves some of those that are missing
made. The trees on the way are returned, latest first, with the fault that stopped the work. -/
def makeParents (file : HistoryFile) (interruption : Option Interruption) (tree : FileTree) :
    List FileTree × Option FileFault :=
  let parent := file.path.parent
  let (states, fault) := FileTree.makeDirectories parent.root [] tree parent.components.reverse
  match interruption with
  | some stop =>
    if stop.step = .makeParents then
      (states.drop (states.length - stop.progress), some ⟨stop.error, parent.text, none⟩)
    else (states, fault)
  | none => (states, fault)

/-- Put a finished temporary file in the place of the document. This is the one step that changes
the document, and it does so at once. -/
def finish (file : HistoryFile) (interruption : Option Interruption) (states : List FileTree)
    (tree : FileTree) (entry : HistoryEntry) : Save :=
  let fault (error : FileError) : HistoryError :=
    .unwritable file.path ⟨error, file.temporary.text, some file.path.text⟩
  match interrupted interruption .replace file.path, tree.replace file.temporary file.path with
  | some stop, _ => ⟨states.reverse, .error (fault stop.error)⟩
  | none, .error error => ⟨states.reverse, .error (fault error)⟩
  | none, .ok replaced => ⟨(replaced :: states).reverse, .ok entry⟩

/-- Write a document to the temporary file: it is opened empty, then its bytes are written, of which an
interruption leaves some. -/
def writeTemporary (file : HistoryFile) (interruption : Option Interruption)
    (states : List FileTree) (tree : FileTree) (bytes : List UInt8) (entry : HistoryEntry) : Save :=
  let fault (error : FileError) : HistoryError :=
    .unwritable file.path ⟨error, file.temporary.text, none⟩
  match interrupted interruption .openTemporary file.temporary, tree.write file.temporary [] with
  | some stop, _ => ⟨states.reverse, .error (fault stop.error)⟩
  | none, .error error => ⟨states.reverse, .error (fault error)⟩
  | none, .ok opened =>
    let kept := match interruption with
      | some stop => if stop.step = .writeTemporary then bytes.take stop.progress else bytes
      | none => bytes
    match opened.write file.temporary kept with
    | .error error => ⟨(opened :: states).reverse, .error (fault error)⟩
    | .ok written =>
      let states := written :: opened :: states
      match interrupted interruption .writeTemporary file.temporary with
      | some stop => ⟨states.reverse, .error (fault stop.error)⟩
      | none => file.finish interruption states written entry

/-- Add an entry to the document, where the system may stop a step. What the document holds is read
again for every save, and all of it is written. -/
def saveUnder (file : HistoryFile) (interruption : Option Interruption) (tree : FileTree)
    (entry : HistoryEntry) : Save :=
  match file.entriesUnder interruption tree with
  | .error error => ⟨[], .error error⟩
  | .ok entries =>
    if file.path.parent.hasNull then ⟨[], .error .nullInPath⟩
    else
      match file.makeParents interruption tree with
      | (states, some fault) => ⟨states.reverse, .error (.unwritable file.path fault)⟩
      | (states, none) =>
        if !(entries ++ [entry]).all HistoryEntry.isWritable then
          ⟨states.reverse, .error .numberTooLong⟩
        else if file.temporary.hasNull then ⟨states.reverse, .error .nullInPath⟩
        else
          file.writeTemporary interruption states (states.head?.getD tree)
            (HistoryDocument.write (entries ++ [entry])) entry

/-- Add an entry to the document, where all errors come from the tree. -/
def save (file : HistoryFile) (tree : FileTree) (entry : HistoryEntry) : Save :=
  file.saveUnder none tree entry

end HistoryFile

/-- Where a history is kept. A memory lasts as long as the service does; a document outlasts it. -/
inductive HistoryStore
  | inMemory (entries : List HistoryEntry)
  | inFile (file : HistoryFile)

namespace HistoryStore

/-- The entries of a store, newest first: the order of the saves turned round, whatever the times of
the entries. -/
def list (store : HistoryStore) (tree : FileTree) : Except HistoryError (List HistoryEntry) :=
  match store with
  | .inMemory entries => .ok entries.reverse
  | .inFile file => (file.entries tree).map List.reverse

/-- Add an entry. The store and the tree are those after the attempt, also where it fails. A memory
takes every entry. -/
def save (store : HistoryStore) (tree : FileTree) (entry : HistoryEntry) :
    HistoryStore × FileTree × Except HistoryError HistoryEntry :=
  match store with
  | .inMemory entries => (.inMemory (entries ++ [entry]), tree, .ok entry)
  | .inFile file =>
    let save := file.save tree entry
    (store, save.finalTree tree, save.outcome)

/-- A store opened anew: a memory starts empty, a document keeps what it has, as if the service were
started again. -/
def reopen : HistoryStore → HistoryStore
  | .inMemory _ => .inMemory []
  | .inFile file => .inFile file

end HistoryStore

end SourceAudit
