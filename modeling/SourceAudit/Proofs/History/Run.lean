import SourceAudit.Proofs.History.Settled

/-!
# Runs of a history

A run performs saves, listings and reopenings one after the other. What every step keeps is that the
document holds the entries from the start followed by those that have been saved
(`HistorySession.entries_perform`). So no run loses, repeats or alters an entry
(`history_run_exact`).
-/

namespace SourceAudit

/-- What a history can be asked to do: to save what a scan has found, to list what has been saved,
or to be opened anew. -/
inductive HistoryStep
  | save (stamp : Stamp) (fileName : LooseText) (findings : List Finding)
  | list
  | reopen

/-- What a history answers. It is the outcome of the store, errors among them, as its caller gets
it. -/
inductive HistoryAnswer
  | saved (outcome : Except HistoryError HistoryEntry)
  | listed (outcome : Except HistoryError (List HistoryEntry))
  | reopened

/-- The entry that an answer says has been saved. -/
def HistoryAnswer.saved? : HistoryAnswer → Option HistoryEntry
  | .saved (.ok entry) => some entry
  | _ => none

/-- Whether an answer is an error that the file system has raised. A document that cannot be used is
none of these, and neither is a path or a number that is refused. -/
def HistoryAnswer.isFromSystem : HistoryAnswer → Bool
  | .saved (.error error) => error.isFromSystem
  | .listed (.error error) => error.isFromSystem
  | _ => false

/-- A store, and the file tree that it works on. Nothing but the store changes the tree between two
steps. -/
structure HistorySession where
  store : HistoryStore
  tree : FileTree

/-- A step that has been performed, with its answer and the trees before and after it. What a step
has changed on disk can be told from them. -/
structure HistoryMoment where
  step : HistoryStep
  answer : HistoryAnswer
  before : FileTree
  after : FileTree

namespace HistorySession

/-- The answer to a step, and the session after it. -/
def perform (session : HistorySession) : HistoryStep → HistoryAnswer × HistorySession
  | .save stamp fileName findings =>
    let entry := HistoryEntry.new stamp fileName findings
    let (store, tree, outcome) := session.store.save session.tree entry
    (.saved outcome, ⟨store, tree⟩)
  | .list => (.listed (session.store.list session.tree), session)
  | .reopen => (.reopened, ⟨session.store.reopen, session.tree⟩)

/-- The moments of a run, in order. Each of them starts from the tree that the one before it has
left. -/
def run (session : HistorySession) : List HistoryStep → List HistoryMoment
  | [] => []
  | step :: rest =>
    let (answer, next) := session.perform step
    ⟨step, answer, session.tree, next.tree⟩ :: next.run rest

end HistorySession

namespace HistoryStep

/-- Whether the line numbers of what is to be saved are short enough to be written. -/
def isWritable : HistoryStep → Bool
  | .save stamp fileName findings => (HistoryEntry.new stamp fileName findings).isWritable
  | _ => true

/-- Whether the texts of what is to be saved hold no lone surrogate. -/
def isUnicode : HistoryStep → Bool
  | .save stamp fileName findings => (HistoryEntry.new stamp fileName findings).isUnicode
  | _ => true

end HistoryStep

/-- What a moment of a run on a history file is to be, where the history holds the entries `known`:
a listing gives them, newest first, and changes nothing; a save returns its entry, or is refused for its
path or a number, and one that can be written leaves no temporary file. -/
def HistoryMoment.IsExact (file : HistoryFile) (known : List HistoryEntry) (moment : HistoryMoment) :
    Prop :=
  match moment.step with
  | .save stamp fileName findings =>
    moment.answer = .saved (file.answerTo (.new stamp fileName findings)) ∧
      (moment.step.isWritable = true → moment.after.isPresent file.temporary = .ok false)
  | .list => moment.answer = .listed (.ok known.reverse) ∧ moment.after = moment.before
  | .reopen => moment.answer = .reopened ∧ moment.after = moment.before

namespace HistorySession

variable {file : HistoryFile} {tree : FileTree} {known : List HistoryEntry}

/-- A save that no error of the file system ends has the document hold what it held, and the entry that it
returns. A save that is refused for a number has made directories, so there the path must be settled. -/
theorem entries_save (accepted : file.entries tree = .ok known) {entry : HistoryEntry}
    (whole : entry.isUnicode = true) (lasting : entry.isWritable = true ∨ file.IsSettled tree)
    (answered : (file.save tree entry).outcome = file.answerTo entry) :
    file.entries ((file.save tree entry).finalTree tree) =
        .ok (known ++ (file.save tree entry).outcome.toOption.toList) ∧
      (entry.isWritable = true →
        ((file.save tree entry).finalTree tree).isPresent file.temporary = .ok false) := by
  cases outcome : (file.save tree entry).outcome with
  | ok result =>
      obtain ⟨rfl, old, read, writable, plain, last, final, written, gone⟩ :=
        HistoryFile.exists_of_save outcome
      cases read.symm.trans accepted
      rw [final]
      refine ⟨HistoryFile.entries_of_read plain written ?_, fun _ => gone⟩
      exact (HistoryFile.read_write_append_iff accepted writable).mpr whole
  | error error =>
      rw [Except.toOption, Option.toList, List.append_nil]
      rw [outcome, HistoryFile.answerTo] at answered
      by_cases null : file.path.hasNull = true
      · have empty := HistoryFile.entries_of_hasNull null
        cases (empty tree).symm.trans accepted
        refine ⟨empty _, fun _ => ?_⟩
        rw [FileTree.isPresent, if_pos ((HistoryFile.hasNull_temporary file).trans null)]
      · have above : ¬ file.path.parent.hasNull = true := fun up => null (HistoryFile.hasNull_of_parent up)
        rw [if_neg above, if_neg null] at answered
        -- Only a number is left to refuse the save for.
        have long : entry.isWritable = false := by
          by_contra short
          rw [Bool.not_eq_false] at short
          rw [short] at answered
          cases answered
        refine ⟨?_, fun short => absurd (long.symm.trans short) Bool.false_ne_true⟩
        have settled := lasting.resolve_left fun short => Bool.false_ne_true (long.symm.trans short)
        have saves := HistoryFile.saves_saveUnder file none tree entry
        have same := HistoryFile.finalTree_of_forall
          (motive := fun state => state.standing file.path = tree.standing file.path) rfl
          fun state member => (saves.keeps_of_error settled outcome state member).2
        exact (HistoryFile.entriesUnder_congr same none).trans accepted

/-- A path that is settled stays settled, whatever is asked. -/
theorem isSettled_perform (settled : file.IsSettled tree) (step : HistoryStep) :
    file.IsSettled (perform ⟨.inFile file, tree⟩ step).2.tree := by
  cases step with
  | list => exact settled
  | reopen => exact settled
  | save stamp fileName findings =>
      have saves := HistoryFile.saves_saveUnder file none tree (.new stamp fileName findings)
      change file.IsSettled ((file.save tree (.new stamp fileName findings)).finalTree tree)
      cases outcome : (file.save tree (.new stamp fileName findings)).outcome with
      | error error =>
          exact HistoryFile.finalTree_of_forall settled
            fun state member => (saves.keeps_of_error settled outcome state member).1
      | ok result =>
          obtain ⟨-, -, -, states, last, split, -, kept, -⟩ := saves.exists_of_ok settled outcome
          rw [HistoryFile.save, Save.finalTree, split, List.getLast?_concat, Option.getD_some]
          exact kept

/-- One step keeps that the document holds what has been saved. -/
theorem entries_perform (accepted : file.entries tree = .ok known) {step : HistoryStep}
    (whole : step.isUnicode = true) (lasting : step.isWritable = true ∨ file.IsSettled tree)
    (quiet : (perform ⟨.inFile file, tree⟩ step).1.isFromSystem = false) :
    ∃ answer later, perform ⟨.inFile file, tree⟩ step = (answer, ⟨.inFile file, later⟩) ∧
      file.entries later = .ok (known ++ answer.saved?.toList) ∧
      HistoryMoment.IsExact file known ⟨step, answer, tree, later⟩ := by
  cases step with
  | list =>
      refine ⟨.listed (.ok known.reverse), tree, ?_, ?_, rfl, rfl⟩
      · simp only [perform, HistoryStore.list, accepted, Except.map]
      · simpa [HistoryAnswer.saved?] using accepted
  | reopen =>
      refine ⟨.reopened, tree, rfl, ?_, rfl, rfl⟩
      simpa [HistoryAnswer.saved?] using accepted
  | save stamp fileName findings =>
      have answered : (file.save tree (.new stamp fileName findings)).outcome =
          file.answerTo (.new stamp fileName findings) := by
        refine HistoryFile.outcome_of_quiet accepted fun error failed => ?_
        simp only [perform, HistoryStore.save, failed] at quiet
        exact quiet
      obtain ⟨held, gone⟩ := entries_save accepted whole lasting answered
      refine ⟨_, _, rfl, ?_, ?_, gone⟩
      · rw [held]
        cases (file.save tree (.new stamp fileName findings)).outcome <;> rfl
      · exact congrArg HistoryAnswer.saved answered

/-- Every moment of a run is exact. The induction is on the steps; what is carried along is that the
document holds the entries that are known. -/
theorem isExact_of_run (accepted : file.entries tree = .ok known) {steps : List HistoryStep}
    (whole : ∀ step ∈ steps, step.isUnicode = true)
    (lasting : (∀ step ∈ steps, step.isWritable = true) ∨ file.IsSettled tree)
    (quiet : ∀ moment ∈ run ⟨.inFile file, tree⟩ steps, moment.answer.isFromSystem = false)
    {earlier later : List HistoryMoment} {moment : HistoryMoment}
    (split : run ⟨.inFile file, tree⟩ steps = earlier ++ moment :: later) :
    moment.IsExact file (known ++ earlier.filterMap (·.answer.saved?)) := by
  induction steps generalizing tree known earlier with
  | nil => simp [run] at split
  | cons step rest ih =>
      obtain ⟨wholeHere, wholeLater⟩ := List.forall_mem_cons.mp whole
      have first : (perform ⟨.inFile file, tree⟩ step).1.isFromSystem = false :=
        quiet _ List.mem_cons_self
      have lastingHere : step.isWritable = true ∨ file.IsSettled tree :=
        lasting.imp_left fun each => each step List.mem_cons_self
      have settled : file.IsSettled tree → file.IsSettled (perform ⟨.inFile file, tree⟩ step).2.tree :=
        fun settled => isSettled_perform settled step
      obtain ⟨answer, next, performed, accepted, exactly⟩ :=
        entries_perform accepted wholeHere lastingHere first
      rw [performed] at settled
      have lastingLater : (∀ step ∈ rest, step.isWritable = true) ∨ file.IsSettled next :=
        lasting.imp (fun each step member => each step (List.mem_cons_of_mem _ member)) settled
      have unrolled : run ⟨.inFile file, tree⟩ (step :: rest) =
          ⟨step, answer, tree, next⟩ :: run ⟨.inFile file, next⟩ rest := by
        rw [run, performed]
      rw [unrolled] at split quiet
      cases earlier with
      | nil =>
          obtain ⟨rfl, -⟩ := List.cons.inj split
          simpa using exactly
      | cons start earlier =>
          obtain ⟨rfl, remaining⟩ := List.cons.inj split
          have others := ih accepted wholeLater lastingLater
            (fun moment member => quiet moment (List.mem_cons_of_mem _ member)) remaining
          rw [List.append_assoc] at others
          have saved : ((⟨step, answer, tree, next⟩ :: earlier).filterMap (·.answer.saved?) :
              List HistoryEntry) = answer.saved?.toList ++ earlier.filterMap (·.answer.saved?) := by
            rw [List.filterMap_cons]
            cases answer.saved? with
            | none => rfl
            | some entry => rfl
          rw [saved]
          exact others

theorem map_step_run (session : HistorySession) (steps : List HistoryStep) :
    (session.run steps).map (·.step) = steps := by
  induction steps generalizing session with
  | nil => rfl
  | cons step rest ih => rw [run, List.map_cons, ih]

end HistorySession

/-- **A run on a history file loses, repeats and alters nothing.** Let the file be absent, or hold a
document that is read as the entries `initial`, in whatever form it gives them, and let the texts that are
saved hold no lone surrogate. In a run in which the file system raises no error, every listing gives the
entries that have been saved so far, the last one first, and after them the initial ones, the last one
first, and it leaves the file tree as it was; so does reopening. Every save returns its entry and leaves no
temporary file, unless the path holds a null character or a line number is too long to be written.

A save that is refused for a number has made the directories above the document by then. Where there may
be such a save, the path must be one that these directories give no other meaning. -/
theorem history_run_exact {file : HistoryFile} {tree : FileTree} {initial : List HistoryEntry}
    (accepted : file.entries tree = .ok initial) {steps : List HistoryStep}
    (whole : ∀ step ∈ steps, step.isUnicode = true)
    (lasting : (∀ step ∈ steps, step.isWritable = true) ∨ file.IsSettled tree)
    (quiet : ∀ moment ∈ HistorySession.run ⟨.inFile file, tree⟩ steps,
      moment.answer.isFromSystem = false) :
    (HistorySession.run ⟨.inFile file, tree⟩ steps).map (·.step) = steps ∧
    ∀ earlier moment later,
      HistorySession.run ⟨.inFile file, tree⟩ steps = earlier ++ moment :: later →
        (moment.step = .list →
          moment.answer = .listed
            (.ok ((earlier.filterMap (·.answer.saved?)).reverse ++ initial.reverse)) ∧
          moment.after = moment.before) ∧
        (moment.step = .reopen → moment.after = moment.before) ∧
        ∀ stamp fileName findings, moment.step = .save stamp fileName findings →
          moment.answer = .saved (file.answerTo ⟨stamp.id, fileName, findings, stamp.time⟩) ∧
          (moment.step.isWritable = true → moment.after.isPresent file.temporary = .ok false) := by
  refine ⟨HistorySession.map_step_run _ _, ?_⟩
  intro earlier moment later split
  have exactly := HistorySession.isExact_of_run accepted whole lasting quiet split
  obtain ⟨step, answer, before, after⟩ := moment
  refine ⟨?_, ?_, ?_⟩
  · rintro rfl
    rw [← List.reverse_append]
    exact exactly
  · rintro rfl
    exact exactly.2
  · rintro stamp fileName findings rfl
    exact exactly

/-- A document in a form that no save writes: a bare date, and a line number in a text. It is
accepted all the same, and a save writes it anew. -/
def looseDocument : List UInt8 :=
  Text.Utf8.encode ("[\x7b\"id\":\"a\",\"file_name\":\"f.js\",\"findings\":[\x7b\"severity\":\"low\",\"message\":\"\","
    ++ "\"line\":\" +07.0\",\"rule\":\"r\",\"improvement\":\"\"\x7d],\"created_at\":\"2024-02-29\"\x7d]").toList

/-- The entry of that document. -/
def looseEntry : HistoryEntry :=
  ⟨"a", "f.js", [⟨.low, "", ⟨6⟩, "r", ""⟩], ⟨⟨2024, 2, 29, by decide⟩, .midnight, none⟩⟩

/-- A file with that document, to which one more entry is saved before the store is opened anew. -/
theorem history_run_exact_loose_document :
    let file : HistoryFile := ⟨⟨"/", ["h.json"]⟩⟩
    let tree : FileTree := ⟨[(["h.json"], .file looseDocument)], []⟩
    let steps : List HistoryStep :=
      [.save ⟨"é", looseEntry.createdAt⟩ "g\n.py" [], .reopen, .list]
    file.entries tree = .ok [looseEntry] ∧
    (∀ step ∈ steps, step.isUnicode = true) ∧
    ((∀ step ∈ steps, step.isWritable = true) ∨ file.IsSettled tree) ∧
    (∀ moment ∈ HistorySession.run ⟨.inFile file, tree⟩ steps, moment.answer.isFromSystem = false) ∧
    ∀ earlier moment later,
      HistorySession.run ⟨.inFile file, tree⟩ steps = earlier ++ moment :: later →
        moment.step = .list →
          moment.answer = .listed
            (.ok ((earlier.filterMap (·.answer.saved?)).reverse ++ [looseEntry])) := by
  intro file tree steps
  have leads : tree.locate file.path = .ok ["h.json"] := by decide +kernel
  have accepted : file.entries tree = .ok [looseEntry] :=
    HistoryFile.entries_of_read (by decide) (FileTree.read_of_get? leads rfl) (by decide +kernel)
  have whole : ∀ step ∈ steps, step.isUnicode = true := by decide +kernel
  have lasting : (∀ step ∈ steps, step.isWritable = true) ∨ file.IsSettled tree :=
    .inl (by decide +kernel)
  have quiet : ∀ moment ∈ HistorySession.run ⟨.inFile file, tree⟩ steps,
      moment.answer.isFromSystem = false := by decide +kernel
  refine ⟨accepted, whole, lasting, quiet, ?_⟩
  intro earlier moment later split listing
  exact (((history_run_exact accepted whole lasting quiet).2 earlier moment later split).1 listing).1

end SourceAudit
