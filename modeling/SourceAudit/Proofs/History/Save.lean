import SourceAudit.History.Store
import SourceAudit.Proofs.FileTree.Frame
import SourceAudit.Proofs.History.Document

/-!
# Saves to a history file

Whatever interrupts a save, it ends in one of a few ways, and every tree on its way is one of
preparation until the document takes its place (`HistoryFile.saves_saveUnder`). A save that nothing
interrupts, and that returns its entry, has moved the whole new document to the path, so that the
entries are those from before and the new one, and its temporary file is gone
(`HistoryFile.exists_of_save`). Where the file system raises no error, its outcome is told from the path
and the entry alone: a path with a null character is refused, and so is a line number that is too long to
be written (`HistoryFile.outcome_of_quiet`).
-/

namespace SourceAudit

/-- An error that the file system raises, and not the program. The others are told from the
document, the path and the entry alone. -/
def HistoryError.isFromSystem : HistoryError → Bool
  | .unreadable _ _ => true
  | .unwritable _ _ => true
  | .uninspectable _ => true
  | .invalid _ _ => false
  | .nullInPath => false
  | .numberTooLong => false

namespace HistoryFile

variable {file : HistoryFile} {tree : FileTree} {entry : HistoryEntry}

/-- The name of the temporary file is neither of the names that stand for a directory. -/
theorem temporary_name_ne (name : String) : name ++ ".tmp" ≠ "." ∧ name ++ ".tmp" ≠ ".." := by
  constructor
  · intro same
    have length := congrArg String.length same
    rw [String.length_append] at length
    have four : ".tmp".length = 4 := rfl
    have one : ".".length = 1 := rfl
    omega
  · intro same
    have length := congrArg String.length same
    rw [String.length_append] at length
    have four : ".tmp".length = 4 := rfl
    have two : "..".length = 2 := rfl
    omega

/-- The temporary file is in another place than the document. -/
theorem locate_temporary_ne {origin destination : Location}
    (temporary : tree.locate file.temporary = .ok origin)
    (document : tree.locate file.path = .ok destination)
    (free : tree.get? destination ≠ some .directory) : origin ≠ destination := by
  obtain ⟨root, components⟩ := file
  obtain ⟨notHere, notUp⟩ := temporary_name_ne (FilePath.name ⟨root, components⟩)
  rw [HistoryFile.temporary, FilePath.withName, FileTree.locate] at temporary
  rw [FileTree.locate] at document
  split at temporary
  · cases temporary
  split at document
  · cases document
  obtain ⟨parent, above, directory, entered⟩ := FileTree.exists_parent temporary
  have besideParent : origin = parent ++ [FilePath.name ⟨root, components⟩ ++ ".tmp"] := by
    rw [FileTree.enter, if_neg notHere, if_neg notUp] at entered
    split at entered
    · cases entered
    · cases entered
      rfl
  rcases List.eq_nil_or_concat components with rfl | ⟨front, name, rfl⟩
  · -- The empty path leads to the directory that the temporary file is in.
    have same : parent = destination := by
      rw [List.dropLast_nil, FileTree.follow] at above
      rw [FileTree.follow] at document
      exact Except.ok.inj (above.symm.trans document)
    exact (free (same ▸ directory)).elim
  · rw [List.concat_eq_append] at above document besideParent
    rw [List.dropLast_concat] at above
    obtain ⟨other, leads, -, enteredLast⟩ := FileTree.exists_parent document
    have same : parent = other := Except.ok.inj (above.symm.trans leads)
    subst same
    have last : FilePath.name ⟨root, front ++ [name]⟩ = name := by
      simp [FilePath.name]
    rw [last] at besideParent
    unfold FileTree.enter at enteredLast
    split at enteredLast
    · cases enteredLast
      exact (free directory).elim
    split at enteredLast
    · cases enteredLast
      intro impossible
      have length := congrArg List.length (besideParent.symm.trans impossible)
      rw [List.length_append, List.length_dropLast, List.length_singleton] at length
      omega
    split at enteredLast
    · cases enteredLast
    · cases enteredLast
      intro impossible
      have longer := List.append_cancel_left (besideParent.symm.trans impossible)
      have length := congrArg String.length (List.cons.inj longer).1
      have four : ".tmp".length = 4 := rfl
      rw [String.length_append] at length
      omega

/-- The temporary file has a null character in its path exactly if the document has. -/
theorem hasNull_temporary (file : HistoryFile) : file.temporary.hasNull = file.path.hasNull := by
  obtain ⟨root, components⟩ := file
  have suffix (name : String) :
      (name ++ ".tmp").toList.contains '\x00' = name.toList.contains '\x00' := by
    have plain : '\x00' ∉ ".tmp".toList := by decide
    rw [String.toList_append]
    simp
  rcases List.eq_nil_or_concat components with rfl | ⟨front, name, rfl⟩
  · have nameless : (FilePath.name ⟨root, []⟩).toList = [] := rfl
    have absent := suffix (FilePath.name ⟨root, []⟩)
    rw [nameless] at absent
    simp only [HistoryFile.temporary, FilePath.withName, FilePath.hasNull, List.dropLast_nil,
      List.nil_append, List.any_cons, List.any_nil, Bool.or_false, absent]
    rfl
  · rw [List.concat_eq_append]
    simp only [HistoryFile.temporary, FilePath.withName, FilePath.hasNull, FilePath.name,
      List.dropLast_concat, List.any_append, List.any_cons, List.any_nil, List.getLast?_concat,
      Option.getD_some, suffix]

theorem hasNull_of_parent (null : file.path.parent.hasNull = true) : file.path.hasNull = true := by
  rw [FilePath.hasNull, List.any_eq_true] at null ⊢
  obtain ⟨name, above, hasNull⟩ := null
  exact ⟨name, List.dropLast_subset _ above, hasNull⟩

/-- Moving the temporary file to the path leaves what it held there, and nothing in its own place. -/
theorem read_of_replace {before last : FileTree} {bytes : List UInt8}
    (written : before.write file.temporary bytes = .ok tree)
    (replaced : tree.replace file.temporary file.path = .ok last) :
    last.read file.path = .ok bytes ∧ last.isPresent file.temporary = .ok false := by
  obtain ⟨location, leads, free, rfl⟩ := FileTree.exists_of_write written
  obtain ⟨origin, destination, moved, fromThere, toThere, present, unblocked, rfl⟩ :=
    FileTree.exists_of_replace replaced
  have kept : before.Keeps (before.set location (.file bytes)) := FileTree.keeps_set free
  -- What is moved is what has been written, since the path still leads to the same place.
  have same : location = origin := Except.ok.inj ((kept.locate leads).symm.trans fromThere)
  subst same
  have inside : location ≠ [] := by
    intro root
    exact free (root ▸ FileTree.get?_root before)
  have content : moved = bytes := by
    rw [FileTree.get?_set_self inside] at present
    injection present with present
    exact (FileEntry.file.inj present).symm
  subst content
  have apart : location ≠ destination := locate_temporary_ne fromThere toThere unblocked
  have destinationInside : destination ≠ [] := by
    intro root
    exact unblocked (root ▸ FileTree.get?_root _)
  have notDirectory : (before.set location (.file moved)).get? location ≠ some .directory := by
    rw [present]
    exact fun impossible => nomatch impossible
  have stillUnblocked : ((before.set location (.file moved)).remove location).get? destination ≠
      some .directory := by
    rw [FileTree.get?_remove_other apart.symm]
    exact unblocked
  have keptByMove : (before.set location (.file moved)).Keeps
      (((before.set location (.file moved)).remove location).set destination (.file moved)) :=
    (FileTree.keeps_remove notDirectory).trans (FileTree.keeps_set stillUnblocked)
  constructor
  · exact FileTree.read_of_get? (keptByMove.locate toThere) (FileTree.get?_set_self destinationInside)
  · unfold FileTree.isPresent
    split
    next => rfl
    next =>
      rw [keptByMove.locate fromThere]
      simp only
      rw [FileTree.get?_set_other apart, FileTree.get?_remove_self inside]
      rfl

/-- What a save may do to a tree before it puts the new document in place: it makes directories above
the document that are missing, and it writes to the temporary file. -/
inductive Prepares (file : HistoryFile) (tree : FileTree) : FileTree → Prop
  | start : file.Prepares tree tree
  | makeDirectory {state later : FileTree} {front rest : List String} {name : String}
      (before : file.Prepares tree state) (above : file.path.components = front ++ name :: rest)
      (made : state.makeDirectory ⟨file.path.root, front⟩ = .ok later) : file.Prepares tree later
  | write {state later : FileTree} {bytes : List UInt8} (before : file.Prepares tree state)
      (written : state.write file.temporary bytes = .ok later) : file.Prepares tree later

/-- What can come of a save. Every tree on the way is one of preparation, but for the last one of a save
that returns its entry, where the temporary file holds the whole new document and takes its place. -/
inductive Saves (file : HistoryFile) (interruption : Option Interruption) (tree : FileTree)
    (entry : HistoryEntry) : Save → Prop
  | unread {error : HistoryError} (unread : file.entriesUnder interruption tree = .error error) :
      file.Saves interruption tree entry ⟨[], .error error⟩
  | nullAbove {old : List HistoryEntry} (accepted : file.entriesUnder interruption tree = .ok old)
      (null : file.path.parent.hasNull = true) :
      file.Saves interruption tree entry ⟨[], .error .nullInPath⟩
  | unmade {old : List HistoryEntry} {states : List FileTree} {fault : FileFault}
      (accepted : file.entriesUnder interruption tree = .ok old)
      (plain : file.path.parent.hasNull = false)
      (made : (file.makeParents interruption tree).2 = some fault)
      (prepared : ∀ state ∈ states, file.Prepares tree state) :
      file.Saves interruption tree entry ⟨states, .error (.unwritable file.path fault)⟩
  | numberTooLong {old : List HistoryEntry} {states : List FileTree}
      (accepted : file.entriesUnder interruption tree = .ok old)
      (plain : file.path.parent.hasNull = false)
      (made : (file.makeParents interruption tree).2 = none)
      (long : (old ++ [entry]).all HistoryEntry.isWritable = false)
      (prepared : ∀ state ∈ states, file.Prepares tree state) :
      file.Saves interruption tree entry ⟨states, .error .numberTooLong⟩
  | nullInName {old : List HistoryEntry} {states : List FileTree}
      (accepted : file.entriesUnder interruption tree = .ok old)
      (plain : file.path.parent.hasNull = false)
      (made : (file.makeParents interruption tree).2 = none)
      (writable : (old ++ [entry]).all HistoryEntry.isWritable = true)
      (null : file.path.hasNull = true)
      (prepared : ∀ state ∈ states, file.Prepares tree state) :
      file.Saves interruption tree entry ⟨states, .error .nullInPath⟩
  | unwritten {old : List HistoryEntry} {states : List FileTree} {fault : FileFault}
      (accepted : file.entriesUnder interruption tree = .ok old)
      (made : (file.makeParents interruption tree).2 = none)
      (writable : (old ++ [entry]).all HistoryEntry.isWritable = true)
      (plain : file.path.hasNull = false)
      (prepared : ∀ state ∈ states, file.Prepares tree state) :
      file.Saves interruption tree entry ⟨states, .error (.unwritable file.path fault)⟩
  | saved {old : List HistoryEntry} {states : List FileTree} {opened written last : FileTree}
      (accepted : file.entriesUnder interruption tree = .ok old)
      (made : (file.makeParents interruption tree).2 = none)
      (writable : (old ++ [entry]).all HistoryEntry.isWritable = true)
      (plain : file.path.hasNull = false)
      (prepared : ∀ state ∈ states, file.Prepares tree state)
      (ready : file.Prepares tree opened)
      (draft : opened.write file.temporary (HistoryDocument.write (old ++ [entry])) = .ok written)
      (replaced : written.replace file.temporary file.path = .ok last) :
      file.Saves interruption tree entry ⟨states ++ [last], .ok entry⟩

/-- What holds of a tree and of those that have been made from it holds of the latest one. -/
theorem head?_getD_of_forall {motive : FileTree → Prop} {states : List FileTree}
    (start : motive tree) (each : ∀ state ∈ states, motive state) :
    motive (states.head?.getD tree) := by
  cases states with
  | nil => exact start
  | cons state rest => exact each state List.mem_cons_self

/-- What holds of a tree, and is kept when a directory on the way is made, holds of every tree that
making the directories comes to. The induction is on the components, from the last one on. -/
theorem forall_makeDirectories {motive : FileTree → Prop} {root : String} {states : List FileTree}
    {components : List String}
    (kept : ∀ {state later : FileTree} {front : List String}, front ≠ [] →
      front <+: components.reverse → motive state →
        state.makeDirectory ⟨root, front⟩ = .ok later → motive later)
    (start : motive tree) (earlier : ∀ state ∈ states, motive state) :
    ∀ state ∈ (FileTree.makeDirectories root states tree components).1, motive state := by
  induction components with
  | nil => exact earlier
  | cons name above ih =>
      have here {state later : FileTree} (holds : motive state)
          (made : state.makeDirectory ⟨root, (name :: above).reverse⟩ = .ok later) : motive later :=
        kept (by simp) (List.prefix_refl _) holds made
      have higher := ih fun front within => kept front (within.trans (by simp))
      rw [FileTree.makeDirectories]
      split
      next made makes =>
        intro state member
        rcases List.mem_cons.mp member with rfl | member
        · exact here start makes
        · exact earlier state member
      next =>
        generalize FileTree.makeDirectories root states tree above = result at higher
        obtain ⟨trees, fault⟩ := result
        cases fault with
        | some fault => exact higher
        | none =>
            simp only
            split
            next made makes =>
              intro state member
              rcases List.mem_cons.mp member with rfl | member
              · exact here (head?_getD_of_forall start higher) makes
              · exact higher state member
            next =>
              split
              next => exact higher
              next => exact higher
      next =>
        split
        next => exact earlier
        next => exact earlier

/-- Making the directories above the document is preparation. -/
theorem prepares_of_makeParents (file : HistoryFile) (interruption : Option Interruption)
    (tree : FileTree) :
    ∀ state ∈ (file.makeParents interruption tree).1, file.Prepares tree state := by
  have all : ∀ state ∈ (FileTree.makeDirectories file.path.root [] tree
      file.path.parent.components.reverse).1, file.Prepares tree state := by
    refine forall_makeDirectories ?_ .start fun _ member => nomatch member
    intro state later front inside within before made
    rw [List.reverse_reverse] at within
    -- The directory is that of a proper part of the path, which has one more component at least.
    obtain ⟨middle, split⟩ := within
    rcases List.eq_nil_or_concat file.path.components with none | ⟨init, name, components⟩
    · have empty : front ++ middle = [] := by
        rw [split, FilePath.parent, none]
        rfl
      exact (inside (List.append_eq_nil_iff.mp empty).1).elim
    · rw [FilePath.parent, components, List.concat_eq_append, List.dropLast_concat] at split
      have above : file.path.components = front ++ (middle ++ [name]) := by
        rw [components, List.concat_eq_append, ← List.append_assoc, split]
      cases middle with
      | nil => exact .makeDirectory before above made
      | cons next middle => exact .makeDirectory before above made
  rw [makeParents]
  simp only
  split
  next stop =>
    split
    next => exact fun state member => all state (List.mem_of_mem_drop member)
    next => exact all
  next => exact all

/-- What comes of a save that has got to its temporary file. -/
theorem saves_writeTemporary {interruption : Option Interruption} {states : List FileTree}
    {old : List HistoryEntry} {before : FileTree}
    (accepted : file.entriesUnder interruption tree = .ok old)
    (made : (file.makeParents interruption tree).2 = none)
    (writable : (old ++ [entry]).all HistoryEntry.isWritable = true)
    (plain : file.path.hasNull = false) (earlier : ∀ state ∈ states, file.Prepares tree state)
    (begun : file.Prepares tree before) :
    file.Saves interruption tree entry
      (file.writeTemporary interruption states before (HistoryDocument.write (old ++ [entry]))
        entry) := by
  have reversed {trees : List FileTree} (each : ∀ state ∈ trees, file.Prepares tree state) :
      ∀ state ∈ trees.reverse, file.Prepares tree state :=
    fun state member => each state (List.mem_reverse.mp member)
  unfold writeTemporary
  simp only
  split
  next => exact .unwritten accepted made writable plain (reversed earlier)
  next => exact .unwritten accepted made writable plain (reversed earlier)
  next opened _ openedAt =>
    have ready : file.Prepares tree opened := .write begun openedAt
    have drafts : ∀ state ∈ opened :: states, file.Prepares tree state :=
      List.forall_mem_cons.mpr ⟨ready, earlier⟩
    split
    next => exact .unwritten accepted made writable plain (reversed drafts)
    next written writtenAt =>
      have all : ∀ state ∈ written :: opened :: states, file.Prepares tree state :=
        List.forall_mem_cons.mpr ⟨.write ready writtenAt, drafts⟩
      split
      next => exact .unwritten accepted made writable plain (reversed all)
      next notStruck =>
        rw [finish]
        simp only
        split
        next => exact .unwritten accepted made writable plain (reversed all)
        next => exact .unwritten accepted made writable plain (reversed all)
        next last _ replaced =>
          rw [List.reverse_cons]
          refine .saved accepted made writable plain (reversed all) ready ?_ replaced
          -- Nothing has struck the writing, so that all bytes are there.
          rw [← writtenAt]
          cases interruption with
          | none => rfl
          | some stop =>
              have other : stop.step ≠ .writeTemporary := by
                intro same
                simp [interrupted, same] at notStruck
              simp only [other, ↓reduceIte]

/-- **Every save is accounted for.** -/
theorem saves_saveUnder (file : HistoryFile) (interruption : Option Interruption) (tree : FileTree)
    (entry : HistoryEntry) :
    file.Saves interruption tree entry (file.saveUnder interruption tree entry) := by
  have prepared := prepares_of_makeParents file interruption tree
  rw [saveUnder]
  split
  next error unread => exact .unread unread
  next old accepted =>
    split
    next null => exact .nullAbove accepted null
    next noNullAbove =>
      rw [Bool.not_eq_true] at noNullAbove
      split
      next states fault made =>
        rw [made] at prepared
        exact .unmade accepted noNullAbove (congrArg Prod.snd made)
          fun state member => prepared state (List.mem_reverse.mp member)
      next states made =>
        rw [made] at prepared
        have parents : (file.makeParents interruption tree).2 = none := congrArg Prod.snd made
        have reversed : ∀ state ∈ states.reverse, file.Prepares tree state :=
          fun state member => prepared state (List.mem_reverse.mp member)
        split
        next long =>
          rw [Bool.not_eq_true'] at long
          exact .numberTooLong accepted noNullAbove parents long reversed
        next short =>
          rw [Bool.not_eq_true, Bool.not_eq_false'] at short
          split
          next null =>
            exact .nullInName accepted noNullAbove parents short (hasNull_temporary file ▸ null)
              reversed
          next noNull =>
            rw [Bool.not_eq_true, hasNull_temporary] at noNull
            exact saves_writeTemporary accepted parents short noNull prepared
              (head?_getD_of_forall .start prepared)

/-- **A save that returns an entry** has written the entries from before and the new one, which is the
one it returns, and its temporary file is gone. -/
theorem exists_of_save {result : HistoryEntry}
    (saved : (file.save tree entry).outcome = .ok result) :
    result = entry ∧ ∃ old, file.entries tree = .ok old ∧
      (old ++ [entry]).all HistoryEntry.isWritable = true ∧ file.path.hasNull = false ∧
      ∃ last, (file.save tree entry).finalTree tree = last ∧
        last.read file.path = .ok (HistoryDocument.write (old ++ [entry])) ∧
        last.isPresent file.temporary = .ok false := by
  have saves := saves_saveUnder file none tree entry
  rw [save] at saved ⊢
  generalize file.saveUnder none tree entry = result at saves saved
  cases saves with
  | @saved old states opened written last accepted made writable plain prepared ready draft replaced =>
      cases saved
      refine ⟨rfl, old, accepted, writable, plain, last, ?_, read_of_replace draft replaced⟩
      simp [Save.finalTree]
  | _ => cases saved

/-- The entries of a document that is there are those that it is read as. -/
theorem entries_of_read {bytes : List UInt8} {entries : List HistoryEntry}
    (plain : file.path.hasNull = false) (present : tree.read file.path = .ok bytes)
    (document : HistoryDocument.read bytes = .ok entries) : file.entries tree = .ok entries := by
  have isPresent : tree.isPresent file.path = .ok true := by
    unfold FileTree.read at present
    cases leads : tree.locate file.path with
    | error error =>
        rw [leads] at present
        cases present
    | ok location =>
        rw [leads] at present
        simp only [bind, Except.bind] at present
        split at present
        next found => simp [FileTree.isPresent, plain, leads, found]
        next => cases present
        next => cases present
  simp only [HistoryFile.entries, entriesUnder, interrupted, isPresent, present, document]

/-- A path with a null character has no document. -/
theorem entries_of_hasNull (null : file.path.hasNull = true) (tree : FileTree) :
    file.entries tree = .ok [] := by
  have absent : tree.isPresent file.path = .ok false := by
    rw [FileTree.isPresent, if_pos null]
  simp only [HistoryFile.entries, entriesUnder, absent]

/-- Entries that a history file holds have been read from its document, if there are any. -/
theorem exists_read_of_entries {entries : List HistoryEntry}
    (accepted : file.entries tree = .ok entries) :
    entries = [] ∨ ∃ bytes, HistoryDocument.read bytes = .ok entries := by
  unfold HistoryFile.entries entriesUnder at accepted
  simp only [interrupted] at accepted
  split at accepted
  next => cases accepted
  next =>
    cases accepted
    exact .inl rfl
  next =>
    split at accepted
    next => cases accepted
    next bytes _ =>
      split at accepted
      next document =>
        cases accepted
        exact .inr ⟨bytes, document⟩
      next => cases accepted

/-- Entries that a history file holds can be written again. -/
theorem isWritable_of_entries {entries : List HistoryEntry}
    (accepted : file.entries tree = .ok entries) : entries.all HistoryEntry.isWritable = true := by
  rcases exists_read_of_entries accepted with rfl | ⟨bytes, read⟩
  · rfl
  · exact HistoryDocument.isWritable_of_read read

/-- Entries that a history file holds are Unicode text. -/
theorem isUnicode_of_entries {entries : List HistoryEntry}
    (accepted : file.entries tree = .ok entries) : entries.all HistoryEntry.isUnicode = true := by
  rcases exists_read_of_entries accepted with rfl | ⟨bytes, read⟩
  · rfl
  · exact HistoryDocument.isUnicode_of_read read

/-- A document of the entries from before and one more is read as them exactly if that one is Unicode
text. -/
theorem read_write_append_iff {old : List HistoryEntry} (accepted : file.entries tree = .ok old)
    (writable : (old ++ [entry]).all HistoryEntry.isWritable = true) :
    HistoryDocument.read (HistoryDocument.write (old ++ [entry])) = .ok (old ++ [entry]) ↔
      entry.isUnicode = true := by
  have whole : (old ++ [entry]).all HistoryEntry.isUnicode = true ↔ entry.isUnicode = true := by
    simp only [List.all_append, isUnicode_of_entries accepted, Bool.true_and, List.all_cons,
      List.all_nil, Bool.and_true]
  rw [← whole]
  exact ⟨HistoryDocument.isUnicode_of_read, HistoryDocument.read_write writable⟩

/-- What a save answers where the file system raises no error. The order of the refusals is that of
the steps at which they are found out. -/
def answerTo (file : HistoryFile) (entry : HistoryEntry) : Except HistoryError HistoryEntry :=
  if file.path.parent.hasNull then .error .nullInPath
  else if !entry.isWritable then .error .numberTooLong
  else if file.path.hasNull then .error .nullInPath
  else .ok entry

/-- A save whose entries can be read, and that fails for no error of the file system, is answered by what
is known of its path and its entry. -/
theorem outcome_of_quiet {old : List HistoryEntry} (accepted : file.entries tree = .ok old)
    (quiet : ∀ error, (file.save tree entry).outcome = .error error → error.isFromSystem = false) :
    (file.save tree entry).outcome = file.answerTo entry := by
  have saves := saves_saveUnder file none tree entry
  have oldWritable := isWritable_of_entries accepted
  rw [save] at quiet ⊢
  rw [HistoryFile.entries] at accepted
  generalize file.saveUnder none tree entry = result at saves quiet
  cases saves with
  | unread unread => cases accepted.symm.trans unread
  | nullAbove _ null => rw [answerTo, if_pos null]
  | unmade => cases quiet _ rfl
  | numberTooLong known plain _ long =>
      cases accepted.symm.trans known
      simp only [List.all_append, oldWritable, Bool.true_and, List.all_cons, List.all_nil,
        Bool.and_true] at long
      simp [answerTo, plain, long]
  | nullInName known plain _ writable null =>
      simp only [List.all_append, List.all_cons, List.all_nil, Bool.and_true,
        Bool.and_eq_true] at writable
      simp [answerTo, plain, writable, null]
  | unwritten => cases quiet _ rfl
  | saved known _ writable plain =>
      simp only [List.all_append, List.all_cons, List.all_nil, Bool.and_true,
        Bool.and_eq_true] at writable
      have above : file.path.parent.hasNull = false :=
        Bool.eq_false_iff.mpr fun null => Bool.eq_false_iff.mp plain (hasNull_of_parent null)
      simp [answerTo, above, writable, plain]

end HistoryFile

end SourceAudit
