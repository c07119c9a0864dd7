import SourceAudit.Proofs.FileTree.Standing
import SourceAudit.Proofs.History.Save

/-!
# Paths that keep their meaning

A save makes the directories above the document that are missing, and it may fail after that. The path
keeps its meaning all the same where no name of it beyond those directories goes up again or is too long
(`HistoryFile.IsSettled`): preparing a save makes a tree grow without touching what stands at the path
(`HistoryFile.Prepares.keeps`). So every tree on the way of a save that fails has at the path what was there
(`HistoryFile.Saves.keeps_of_error`), and one that returns its entry leaves the whole new document there
(`HistoryFile.Saves.exists_of_ok`).
-/

namespace SourceAudit

namespace HistoryFile

/-- Everything stands in a directory, and the path of the document keeps its meaning when missing
directories above it are made. -/
structure IsSettled (file : HistoryFile) (tree : FileTree) : Prop where
  closed : tree.Closed
  names : tree.IsOrdinaryBeyond file.path

variable {file : HistoryFile} {tree state later : FileTree} {entry : HistoryEntry}
  {interruption : Option Interruption} {save : Save}

/-- The entries depend on nothing but what stands at the path. -/
theorem entriesUnder_congr (same : later.standing file.path = tree.standing file.path)
    (interruption : Option Interruption) :
    file.entriesUnder interruption later = file.entriesUnder interruption tree := by
  unfold entriesUnder
  rw [FileTree.isPresent_eq, FileTree.isPresent_eq, same]
  cases stands : tree.standing file.path with
  | error error => rfl
  | ok found =>
      cases found with
      | none => rfl
      | some entry =>
          rw [FileTree.read_of_standing stands, FileTree.read_of_standing (same.trans stands)]

/-- Entries that are read although the system strikes are those of the document. -/
theorem entries_of_entriesUnder {known : List HistoryEntry}
    (accepted : file.entriesUnder interruption tree = .ok known) : file.entries tree = .ok known := by
  unfold entriesUnder at accepted
  split at accepted
  next => cases accepted
  next absent =>
    rw [HistoryFile.entries, entriesUnder, absent]
    exact accepted
  next present =>
    split at accepted
    next => cases accepted
    next => simpa only [HistoryFile.entries, entriesUnder, interrupted, present] using accepted

/-- Preparing a save makes the tree grow, and leaves what stands at the path. -/
theorem Prepares.keeps (prepared : file.Prepares tree state) (settled : file.IsSettled tree) :
    tree.Grows state ∧ state.Closed ∧ state.standing file.path = tree.standing file.path := by
  induction prepared with
  | start => exact ⟨.refl tree, settled.closed, rfl⟩
  | @makeDirectory state later front rest name before above made ih =>
      obtain ⟨grown, closed, same⟩ := ih
      have kept := FileTree.standing_makeDirectory closed (settled.names.of_grows grown) above made
      obtain ⟨location, leads, absent, rfl⟩ := FileTree.exists_of_makeDirectory made
      have free : state.get? location ≠ some .directory := by simp [absent]
      obtain ⟨parent, name, rfl, directory⟩ := closed.exists_directory leads free
      exact ⟨grown.trans (FileTree.grows_set_directory absent), closed.set directory free,
        kept.trans same⟩
  | @write state later bytes before written ih =>
      obtain ⟨grown, closed, same⟩ := ih
      obtain ⟨location, leads, free, rfl⟩ := FileTree.exists_of_write written
      have kept : (state.set location (.file bytes)).standing file.path = state.standing file.path :=
        FileTree.standing_set_file free fun document => locate_temporary_ne leads document free rfl
      obtain ⟨parent, name, rfl, directory⟩ := closed.exists_directory leads free
      exact ⟨grown.trans (FileTree.grows_set_file free), closed.set directory free, kept.trans same⟩

/-- What holds of a tree and of every one that a save makes from it holds of the one it leaves. -/
theorem finalTree_of_forall {motive : FileTree → Prop} (start : motive tree)
    (each : ∀ state ∈ save.states, motive state) : motive (save.finalTree tree) := by
  rw [Save.finalTree]
  cases last : save.states.getLast? with
  | none => exact start
  | some state => exact each state (List.mem_of_getLast? last)

/-- What is true of every tree on the way of a save that fails. -/
theorem Saves.keeps_of_error {error : HistoryError}
    (saves : file.Saves interruption tree entry save) (settled : file.IsSettled tree)
    (failed : save.outcome = .error error) :
    ∀ state ∈ save.states,
      file.IsSettled state ∧ state.standing file.path = tree.standing file.path := by
  have each {states : List FileTree} (prepared : ∀ state ∈ states, file.Prepares tree state) :
      ∀ state ∈ states,
        file.IsSettled state ∧ state.standing file.path = tree.standing file.path := by
    intro state member
    obtain ⟨grown, closed, same⟩ := (prepared state member).keeps settled
    exact ⟨⟨closed, settled.names.of_grows grown⟩, same⟩
  cases saves with
  | unread => exact fun _ member => nomatch member
  | nullAbove => exact fun _ member => nomatch member
  | unmade _ _ _ prepared => exact each prepared
  | numberTooLong _ _ _ _ prepared => exact each prepared
  | nullInName _ _ _ _ _ prepared => exact each prepared
  | unwritten _ _ _ _ prepared => exact each prepared
  | saved => cases failed

/-- What is true of the trees on the way of a save that returns an entry: all but the last one have what
was at the path, and the last one has the whole new document. -/
theorem Saves.exists_of_ok {result : HistoryEntry}
    (saves : file.Saves interruption tree entry save) (settled : file.IsSettled tree)
    (saved : save.outcome = .ok result) :
    result = entry ∧ ∃ known, file.entries tree = .ok known ∧
      ∃ states last, save.states = states ++ [last] ∧
        (∀ state ∈ states, state.standing file.path = tree.standing file.path) ∧
        file.IsSettled last ∧
        last.standing file.path = .ok (some (.file (HistoryDocument.write (known ++ [entry])))) ∧
        (entry.isUnicode = true → file.entries last = .ok (known ++ [entry])) := by
  cases saves with
  | @saved known states opened written last accepted made writable plain prepared ready draft
      replaced =>
      cases saved
      have present := (read_of_replace draft replaced).1
      obtain ⟨-, closed, -⟩ := (ready.write draft).keeps settled
      obtain ⟨-, destination, -, -, leads, -⟩ := FileTree.exists_of_replace replaced
      obtain ⟨kept, closedLast⟩ := closed.replace replaced
      refine ⟨rfl, known, entries_of_entriesUnder accepted, states, _, rfl, ?_, ⟨?_, ?_⟩, ?_, ?_⟩
      · exact fun state member => ((prepared state member).keeps settled).2.2
      · exact closedLast
      · exact FileTree.isOrdinaryBeyond_of_locate (kept.locate leads)
      · exact FileTree.standing_of_read plain present
      · intro whole
        refine entries_of_read plain present ?_
        exact (read_write_append_iff (entries_of_entriesUnder accepted) writable).mpr whole
  | _ => cases saved

end HistoryFile

end SourceAudit
