import SourceAudit.Proofs.History.Run

/-!
# Saves that fail

A save that fails leaves what stands at the path of the document as it was, and no tree on the way of
any save holds anything else there than the old document or the whole new one
(`history_save_atomic`). What carries this is that preparing a save makes a tree grow without touching
the document (`HistoryFile.Prepares.keeps`). Runs in which the system strikes some of the attempts
therefore show exactly the saves that have returned an entry.

Two things limit this (`history_save_limits`). A path may get another meaning by the directories that a
failed save has made above it, where its names beyond the missing directories go up again or are too long.
And a document with a lone surrogate in it is written, but not read again.
-/

namespace SourceAudit

/-- Something that a history is asked to do, and the error by which the system strikes it, if it
does. At most one step of an attempt is struck. -/
structure HistoryAttempt where
  step : HistoryStep
  interruption : Option Interruption

/-- An attempt that has been made, with its answer and the trees before and after it. -/
structure HistoryAttempt.Moment where
  attempt : HistoryAttempt
  answer : HistoryAnswer
  before : FileTree
  after : FileTree

namespace HistoryFile

/-- The answer to an attempt, and the tree after it. A listing can be struck as well, at the reading
of the document. -/
def attempt (file : HistoryFile) (tree : FileTree) (attempt : HistoryAttempt) :
    HistoryAnswer × FileTree :=
  match attempt.step with
  | .save stamp fileName findings =>
    let save := file.saveUnder attempt.interruption tree (.new stamp fileName findings)
    (.saved save.outcome, save.finalTree tree)
  | .list => (.listed ((file.entriesUnder attempt.interruption tree).map List.reverse), tree)
  | .reopen => (.reopened, tree)

/-- The moments of a run of attempts, in order. -/
def attempts (file : HistoryFile) (tree : FileTree) : List HistoryAttempt → List HistoryAttempt.Moment
  | [] => []
  | first :: rest =>
    let (answer, after) := file.attempt tree first
    ⟨first, answer, tree, after⟩ :: file.attempts after rest

/-- A save that fails leaves what stands at the path of the document, and so what reading it gives.
This is asked for every entry and every step at which the system may strike. -/
def FailsCleanly (file : HistoryFile) (tree : FileTree) : Prop :=
  ∀ interruption entry error, (file.saveUnder interruption tree entry).outcome = .error error →
    ((file.saveUnder interruption tree entry).finalTree tree).standing file.path =
      tree.standing file.path ∧
    ∀ later, file.entriesUnder later ((file.saveUnder interruption tree entry).finalTree tree) =
      file.entriesUnder later tree

variable {file : HistoryFile} {tree state later : FileTree} {entry : HistoryEntry}
  {interruption : Option Interruption} {save : Save}

theorem failsCleanly_of_isSettled (settled : file.IsSettled tree) : file.FailsCleanly tree := by
  intro interruption entry error failed
  have saves := saves_saveUnder file interruption tree entry
  have same := finalTree_of_forall
    (motive := fun state => state.standing file.path = tree.standing file.path) rfl
    fun state member => (saves.keeps_of_error settled failed state member).2
  exact ⟨same, entriesUnder_congr same⟩

theorem not_failsCleanly_of_save (entry : HistoryEntry)
    (failed : (file.save tree entry).outcome.toOption = none)
    (changed : ((file.save tree entry).finalTree tree).standing file.path ≠
      tree.standing file.path) : ¬ file.FailsCleanly tree := by
  intro cleanly
  cases outcome : (file.save tree entry).outcome with
  | error error => exact changed (cleanly none entry error outcome).1
  | ok result =>
      rw [outcome] at failed
      cases failed

/-- No tree on the way of a save holds a part of a document. -/
theorem standing_of_mem_states (settled : file.IsSettled tree)
    (member : state ∈ (file.saveUnder interruption tree entry).states) :
    state.standing file.path = tree.standing file.path ∨
      ∃ known, file.entries tree = .ok known ∧
        state.standing file.path = .ok (some (.file (HistoryDocument.write (known ++ [entry])))) := by
  have saves := saves_saveUnder file interruption tree entry
  cases outcome : (file.saveUnder interruption tree entry).outcome with
  | error error => exact .inl (saves.keeps_of_error settled outcome state member).2
  | ok result =>
      obtain ⟨-, known, accepted, states, last, split, before, -, whole, -⟩ :=
        saves.exists_of_ok settled outcome
      rw [split] at member
      rcases List.mem_append.mp member with member | member
      · exact .inl (before state member)
      · rw [List.mem_singleton.mp member]
        exact .inr ⟨known, accepted, whole⟩

/-! ### Runs of attempts -/

/-- One attempt keeps the path settled, and the document holds what it held and what has been saved, if
that can be read again. -/
theorem entries_attempt (settled : file.IsSettled tree) (attempt : HistoryAttempt) :
    file.IsSettled (file.attempt tree attempt).2 ∧
      ((∀ entry ∈ (file.attempt tree attempt).1.saved?, entry.isUnicode = true) →
        file.entries (file.attempt tree attempt).2 =
          (file.entries tree).map (· ++ (file.attempt tree attempt).1.saved?.toList)) := by
  have unchanged : file.entries tree = (file.entries tree).map (· ++ []) := by
    cases file.entries tree with
    | error error => rfl
    | ok known => rw [Except.map, List.append_nil]
  obtain ⟨step, interruption⟩ := attempt
  cases step with
  | list => exact ⟨settled, fun _ => unchanged⟩
  | reopen => exact ⟨settled, fun _ => unchanged⟩
  | save stamp fileName findings =>
      have saves := saves_saveUnder file interruption tree (.new stamp fileName findings)
      simp only [HistoryFile.attempt]
      cases outcome : (file.saveUnder interruption tree (.new stamp fileName findings)).outcome with
      | error error =>
          have kept := finalTree_of_forall (motive := file.IsSettled) settled
            fun state member => (saves.keeps_of_error settled outcome state member).1
          refine ⟨kept, fun _ => ?_⟩
          have same := (failsCleanly_of_isSettled settled interruption _ error outcome).2 none
          exact same.trans unchanged
      | ok result =>
          obtain ⟨rfl, known, accepted, states, last, split, -, kept, -, entries⟩ :=
            saves.exists_of_ok settled outcome
          have final : (file.saveUnder interruption tree (.new stamp fileName findings)).finalTree
              tree = last := by
            rw [Save.finalTree, split, List.getLast?_concat, Option.getD_some]
          rw [final, accepted]
          exact ⟨kept, fun whole => entries (whole _ rfl)⟩

/-- Every moment of a run is an attempt on a settled path, where the document holds what it held at the
start and what has been saved since, if all that can be read again. The induction is on the attempts. -/
theorem entries_of_attempts (settled : file.IsSettled tree) {attempts : List HistoryAttempt}
    {earlier later : List HistoryAttempt.Moment} {moment : HistoryAttempt.Moment}
    (split : file.attempts tree attempts = earlier ++ moment :: later) :
    file.attempt moment.before moment.attempt = (moment.answer, moment.after) ∧
      file.IsSettled moment.before ∧
      ((∀ entry ∈ earlier.filterMap (·.answer.saved?), entry.isUnicode = true) →
        file.entries moment.before =
          (file.entries tree).map (· ++ earlier.filterMap (·.answer.saved?))) := by
  induction attempts generalizing tree earlier with
  | nil => simp [HistoryFile.attempts] at split
  | cons first rest ih =>
      obtain ⟨kept, entries⟩ := entries_attempt settled first
      rcases performs : file.attempt tree first with ⟨answer, after⟩
      rw [performs] at kept entries
      rw [HistoryFile.attempts, performs] at split
      cases earlier with
      | nil =>
          obtain ⟨rfl, -⟩ := List.cons.inj split
          refine ⟨performs, settled, fun _ => ?_⟩
          cases file.entries tree with
          | error error => rfl
          | ok known => rw [Except.map, List.filterMap_nil, List.append_nil]
      | cons start earlier =>
          obtain ⟨rfl, remaining⟩ := List.cons.inj split
          obtain ⟨performed, later, known⟩ := ih kept remaining
          refine ⟨performed, later, fun whole => ?_⟩
          have saved : (⟨first, answer, tree, after⟩ :: earlier).filterMap (·.answer.saved?) =
              answer.saved?.toList ++ earlier.filterMap (·.answer.saved?) := by
            rw [List.filterMap_cons]
            cases answer.saved? <;> rfl
          rw [saved, List.forall_mem_append] at whole
          rw [known whole.2, entries fun entry member => whole.1 entry (Option.mem_toList.mpr member),
            saved]
          cases file.entries tree with
          | error error => rfl
          | ok initial => simp only [Except.map, List.append_assoc]

theorem map_attempt_attempts (file : HistoryFile) (tree : FileTree) (attempts : List HistoryAttempt) :
    (file.attempts tree attempts).map (·.attempt) = attempts := by
  induction attempts generalizing tree with
  | nil => rfl
  | cons first rest ih => rw [HistoryFile.attempts, List.map_cons, ih]

end HistoryFile

/-- **Failed saves are atomic.** Let everything in the tree stand in a directory, and let no name of
the path that comes after a missing directory go up again or be too long. Whatever is at the path and
beside it, and at whatever step the system strikes:

* a save that fails leaves what stands at the path, and so what any later reading gives;
* on the way of any save, the path has what stood there before or the whole new document;
* in a run of attempts, a listing that nothing strikes gives the entries that have been saved so far,
  the last one first, and after them the initial ones, or the error that the document gave in the
  beginning. A listing that is struck gives the same entries if it gives any. This goes on as long as no
  entry has been saved that holds a lone surrogate. -/
theorem history_save_atomic {file : HistoryFile} {tree : FileTree} (closed : tree.Closed)
    (names : tree.IsOrdinaryBeyond file.path) :
    file.FailsCleanly tree ∧
    (∀ interruption entry, ∀ state ∈ (file.saveUnder interruption tree entry).states,
      state.standing file.path = tree.standing file.path ∨
        ∃ known, file.entries tree = .ok known ∧
          state.standing file.path =
            .ok (some (.file (HistoryDocument.write (known ++ [entry]))))) ∧
    ∀ attempts, (file.attempts tree attempts).map (·.attempt) = attempts ∧
      ∀ earlier moment later, file.attempts tree attempts = earlier ++ moment :: later →
        (∀ stamp fileName findings, moment.attempt.step = .save stamp fileName findings →
          ∃ outcome, moment.answer = .saved outcome ∧
            (∀ entry, outcome = .ok entry → entry = ⟨stamp.id, fileName, findings, stamp.time⟩) ∧
            ∀ error, outcome = .error error →
              moment.after.standing file.path = moment.before.standing file.path) ∧
        (moment.attempt.step = .list →
          (∀ entry ∈ earlier.filterMap (·.answer.saved?), entry.isUnicode = true) →
          ∃ outcome, moment.answer = .listed outcome ∧
            (moment.attempt.interruption = none →
              outcome = (file.entries tree).map fun initial =>
                (earlier.filterMap (·.answer.saved?)).reverse ++ initial.reverse) ∧
            ∀ shown, outcome = .ok shown →
              (file.entries tree).map (fun initial =>
                (earlier.filterMap (·.answer.saved?)).reverse ++ initial.reverse) = .ok shown) := by
  have settled : file.IsSettled tree := ⟨closed, names⟩
  refine ⟨HistoryFile.failsCleanly_of_isSettled settled,
    fun interruption entry state => HistoryFile.standing_of_mem_states settled, fun attempts =>
    ⟨HistoryFile.map_attempt_attempts file tree attempts, ?_⟩⟩
  intro earlier moment later split
  obtain ⟨performed, kept, known⟩ := HistoryFile.entries_of_attempts settled split
  obtain ⟨⟨step, interruption⟩, answer, before, after⟩ := moment
  refine ⟨?_, ?_⟩
  · rintro stamp fileName findings rfl
    simp only [HistoryFile.attempt, Prod.mk.injEq] at performed
    obtain ⟨rfl, rfl⟩ := performed
    refine ⟨_, rfl, ?_, ?_⟩
    · intro entry saved
      exact ((HistoryFile.saves_saveUnder file interruption before _).exists_of_ok kept saved).1
    · intro error failed
      exact (HistoryFile.failsCleanly_of_isSettled kept interruption _ error failed).1
  · rintro rfl whole
    simp only [HistoryFile.attempt, Prod.mk.injEq] at performed
    obtain ⟨rfl, rfl⟩ := performed
    have newestFirst : (file.entries before).map List.reverse =
        (file.entries tree).map fun initial =>
          (earlier.filterMap (·.answer.saved?)).reverse ++ initial.reverse := by
      rw [known whole]
      cases file.entries tree with
      | error error => rfl
      | ok initial => rw [Except.map, Except.map, Except.map, List.reverse_append]
    refine ⟨_, rfl, ?_, ?_⟩
    · rintro rfl
      exact newestFirst
    · intro shown listed
      rw [← newestFirst]
      cases read : file.entriesUnder interruption before with
      | error error =>
          rw [read] at listed
          cases listed
      | ok entries =>
          rw [read] at listed
          rw [HistoryFile.entries_of_entriesUnder read, listed]

/-- A full disk strikes two saves, one while it makes directories and one while it writes, before a
third one is listed. -/
theorem history_save_atomic_full_disk :
    let file : HistoryFile := ⟨⟨"/", ["a", "b", "h.json"]⟩⟩
    let tree : FileTree := ⟨[], []⟩
    let full : FileError := .other 28 "No space left on device"
    let third : HistoryEntry := ⟨"3", "g.py", [], looseEntry.createdAt⟩
    let attempts : List HistoryAttempt := [
      ⟨.save ⟨"1", looseEntry.createdAt⟩ "f.js" [], some ⟨.makeParents, full, 1⟩⟩,
      ⟨.save ⟨"2", looseEntry.createdAt⟩ "f.js" [], some ⟨.writeTemporary, full, 3⟩⟩,
      ⟨.save ⟨"3", looseEntry.createdAt⟩ "g.py" [], none⟩,
      ⟨.list, none⟩]
    tree.Closed ∧ tree.IsOrdinaryBeyond file.path ∧
    (file.attempts tree attempts).filterMap (·.answer.saved?) = [third] ∧
    ∀ earlier moment later, file.attempts tree attempts = earlier ++ moment :: later →
      moment.attempt = ⟨.list, none⟩ →
        moment.answer = .listed (.ok (earlier.filterMap (·.answer.saved?)).reverse) := by
  intro file tree full third attempts
  have closed : tree.Closed := FileTree.closed_of_entries rfl fun _ listed => nomatch listed
  have names : tree.IsOrdinaryBeyond file.path :=
    FileTree.isOrdinaryBeyond_of_forall (by decide +kernel)
  have absent : tree.isPresent file.path = .ok false := by decide +kernel
  have empty : file.entries tree = .ok [] := by
    simp only [HistoryFile.entries, HistoryFile.entriesUnder, absent]
  have saved : (file.attempts tree attempts).filterMap (·.answer.saved?) = [third] := by decide +kernel
  refine ⟨closed, names, saved, ?_⟩
  intro earlier moment later split listing
  have whole : ∀ entry ∈ earlier.filterMap (·.answer.saved?), entry.isUnicode = true := by
    intro entry member
    rw [split, List.filterMap_append] at saved
    have among : entry ∈ [third] := saved ▸ List.mem_append_left _ member
    rw [List.mem_singleton.mp among]
    rfl
  obtain ⟨-, -, run⟩ := history_save_atomic closed names
  obtain ⟨outcome, answered, shows, -⟩ := ((run attempts).2 earlier moment later split).2 (by
    rw [listing]) whole
  rw [answered, shows (by rw [listing]), empty]
  simp [Except.map]

namespace HistoryFile

/-- A save that cannot write below the directory that it has made leaves the directory. -/
theorem exists_of_save_of_long {name : String} (entry : HistoryEntry)
    (long : FilePath.maxNameBytes < FilePath.byteLength name)
    (plain : FilePath.hasNull ⟨"", ["sub", name]⟩ = false)
    (absent : FileTree.standing ⟨[], []⟩ ⟨"", ["sub", name]⟩ = .ok none)
    (writable : entry.isWritable = true) :
    ∃ error, save ⟨⟨"", ["sub", name]⟩⟩ ⟨[], []⟩ entry =
      ⟨[FileTree.set ⟨[], []⟩ ["sub"] .directory], .error error⟩ := by
  let file : HistoryFile := ⟨⟨"", ["sub", name]⟩⟩
  let tree : FileTree := ⟨[], []⟩
  let made : FileTree := tree.set ["sub"] .directory
  have known : file.entriesUnder none tree = .ok [] := by
    rw [entriesUnder, FileTree.isPresent_eq, absent]
    rfl
  have above : FilePath.hasNull ⟨"", ["sub"]⟩ = false := by decide +kernel
  change file.path.parent.hasNull = false at above
  have parents : file.makeParents none tree = ([made], none) := by
    have leads : tree.locate ⟨"", ["sub"]⟩ = .ok ["sub"] := by decide +kernel
    have created : tree.makeDirectory ⟨"", ["sub"]⟩ = .ok made := by
      rw [FileTree.makeDirectory, leads]
      rfl
    have directories : FileTree.makeDirectories file.path.parent.root [] tree
        file.path.parent.components.reverse = ([made], none) := by
      change FileTree.makeDirectories "" [] tree ["sub"] = _
      simp only [FileTree.makeDirectories, List.reverse_singleton, created]
    simp only [makeParents, directories]
  have noNull : file.temporary.hasNull = false := (hasNull_temporary file).trans plain
  have longer : FilePath.maxNameBytes < FilePath.byteLength (name ++ ".tmp") := by
    rw [FilePath.byteLength_append]
    omega
  cases written : made.write file.temporary [] with
  | ok later =>
      obtain ⟨location, leads, -⟩ := FileTree.exists_of_write written
      exact (FileTree.locate_ne_ok_of_long rfl longer leads).elim
  | error error =>
      refine ⟨.unwritable file.path ⟨error, file.temporary.text, none⟩, ?_⟩
      change file.saveUnder none tree entry = _
      simp only [saveUnder, known, above, parents, noNull, List.nil_append, List.all_cons,
        List.all_nil, writable]
      simp [writeTemporary, interrupted, written, made, tree]

theorem not_failsCleanly_of_long {name : String}
    (long : FilePath.maxNameBytes < FilePath.byteLength name)
    (short : ¬ FilePath.maxPathBytes ≤ FilePath.byteLength (FilePath.text ⟨"", ["sub", name]⟩))
    (plain : FilePath.hasNull ⟨"", ["sub", name]⟩ = false) :
    ¬ FailsCleanly ⟨⟨"", ["sub", name]⟩⟩ ⟨[], []⟩ := by
  have absent : FileTree.standing ⟨[], []⟩ ⟨"", ["sub", name]⟩ = .ok none := by
    rw [FileTree.standing_eq, plain, FileTree.locate_eq_follow short]
    rfl
  have tooLong : FileTree.standing (.set ⟨[], []⟩ ["sub"] .directory) ⟨"", ["sub", name]⟩ =
      .error .nameTooLong := by
    have unlocated := FileTree.locate_eq_nameTooLong_iff.mpr
      (.inr ⟨["sub"], name, [], rfl, ⟨["sub"], rfl, rfl⟩, long⟩ :
        FileTree.IsTooLong (.set ⟨[], []⟩ ["sub"] .directory) ⟨"", ["sub", name]⟩)
    rw [FileTree.standing, plain, unlocated]
    rfl
  obtain ⟨error, saved⟩ :=
    exists_of_save_of_long looseEntry long plain absent (by decide +kernel)
  refine not_failsCleanly_of_save looseEntry (by rw [saved]; rfl) ?_
  rw [saved, absent]
  change FileTree.standing (.set ⟨[], []⟩ ["sub"] .directory) ⟨"", ["sub", name]⟩ ≠ _
  rw [tooLong]
  intro impossible
  cases impossible

end HistoryFile

/-- An entry whose file name holds a lone surrogate, as a request for a scan can give it. -/
def surrogateEntry : HistoryEntry :=
  ⟨"1", ⟨"", [(⟨0xd800, rfl⟩, ".js")]⟩, [], looseEntry.createdAt⟩

/-- A failed save may change what its path means: the directory that it has made lets the path be
searched for a name that is too long, or lets it go up again to a file that stands there. And a save that
returns an entry with a lone surrogate leaves a document that no listing reads. -/
theorem history_save_limits :
    let long : HistoryFile := ⟨⟨"", ["sub", String.ofList (List.replicate 256 'a')]⟩⟩
    let empty : FileTree := ⟨[], []⟩
    let up : HistoryFile := ⟨⟨"/", ["sub", "..", "h.json"]⟩⟩
    let blocked : FileTree := ⟨[(["h.json"], .file looseDocument), (["h.json.tmp"], .directory)], []⟩
    let file : HistoryFile := ⟨⟨"/", ["h.json"]⟩⟩
    (empty.Closed ∧ ¬ long.FailsCleanly empty) ∧ (blocked.Closed ∧ ¬ up.FailsCleanly blocked) ∧
      (file.save empty surrogateEntry).outcome.toOption = some surrogateEntry ∧
      (file.entries ((file.save empty surrogateEntry).finalTree empty)).toOption = none := by
  refine ⟨⟨FileTree.closed_of_entries rfl (fun _ listed => nomatch listed), ?_⟩,
    ⟨FileTree.closed_of_entries rfl (by decide +kernel), ?_⟩, by decide +kernel, by decide +kernel⟩
  · refine HistoryFile.not_failsCleanly_of_long ?_ ?_ ?_
    · rw [FilePath.byteLength, String.toList_ofList]
      decide +kernel
    · have text (name : String) :
          FilePath.text ⟨"", ["sub", name]⟩ = "" ++ ("sub" ++ "/" ++ name) := rfl
      rw [text]
      simp only [FilePath.byteLength, String.toList_append, String.toList_ofList]
      decide +kernel
    · rw [FilePath.hasNull]
      simp only [List.any_cons, String.toList_ofList, List.any_nil]
      decide +kernel
  · exact HistoryFile.not_failsCleanly_of_save looseEntry (by decide +kernel) (by decide +kernel)

end SourceAudit
