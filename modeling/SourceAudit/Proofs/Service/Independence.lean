import SourceAudit.Network.Library
import SourceAudit.Proofs.FileTree.Standing
import SourceAudit.Proofs.History.Save
import SourceAudit.Proofs.Service.Routing
import SourceAudit.Proofs.Service.Sendable

/-!
# Scans and the state of the history

A scan is answered with its report whether or not it can be recorded, except where its save ends in an
error that the history file does not report. When that happens is told by the path, the file tree and
the findings alone (`HistoryFile.Escapes`): the path is too long to be looked at, it holds a null
character, or a line number is too long to be written. Everywhere else the answer does not depend on
the history (`scan_answer_eq_iff`): it is the report, unless the name of the file or a number keeps the
report from being sent, whatever the history.
-/

namespace SourceAudit

namespace HistoryFile

/-- When the save of some findings ends in an error that the file does not report. The stamp and the
file name do not matter to it. -/
inductive Escapes (file : HistoryFile) (tree : FileTree) (findings : List Finding) : Prop
  | uninspectable (plain : file.path.hasNull = false) (tooLong : tree.IsTooLong file.path)
  | nullAbove (null : file.path.parent.hasNull = true)
  | nullInName (null : file.path.hasNull = true) (made : (file.makeParents none tree).2 = none)
  | numberTooLong {known : List HistoryEntry} (accepted : file.entries tree = .ok known)
      (made : (file.makeParents none tree).2 = none) (long : findings.all Finding.isWritable = false)

variable {file : HistoryFile} {tree : FileTree} {findings : List Finding}

/-- The one error of reading that a file does not report is that its path is too long. -/
theorem unreported_of_entries {error : HistoryError} (failed : file.entries tree = .error error)
    (unreported : error.isReported = false) :
    file.path.hasNull = false ∧ tree.IsTooLong file.path := by
  unfold HistoryFile.entries entriesUnder at failed
  simp only [interrupted] at failed
  split at failed
  next reason absent => exact (FileTree.isPresent_eq_error_iff.mp absent).2
  next => cases failed
  next =>
    split at failed
    next =>
      cases failed
      cases unreported
    next =>
      split at failed
      next => cases failed
      next =>
        cases failed
        cases unreported

theorem entries_of_isTooLong (plain : file.path.hasNull = false) (tooLong : tree.IsTooLong file.path) :
    file.entries tree = .error (.uninspectable ⟨.nameTooLong, file.path.text, none⟩) := by
  have failed := FileTree.isPresent_eq_error_iff.mpr ⟨rfl, plain, tooLong⟩
  simp only [HistoryFile.entries, entriesUnder, failed]

/-- Where the entries cannot be read, the error is one that is not reported. -/
theorem Escapes.unreported {error : HistoryError} (escapes : file.Escapes tree findings)
    (unread : file.entries tree = .error error) : error.isReported = false := by
  cases escapes with
  | uninspectable plain tooLong =>
      cases (entries_of_isTooLong plain tooLong).symm.trans unread
      rfl
  | nullAbove null => cases (entries_of_hasNull (hasNull_of_parent null) tree).symm.trans unread
  | nullInName null => cases (entries_of_hasNull null tree).symm.trans unread
  | numberTooLong accepted => cases accepted.symm.trans unread

/-- Where the entries can be read, it is the path or a line number that cannot be written. -/
theorem Escapes.of_accepted {known : List HistoryEntry} (escapes : file.Escapes tree findings)
    (accepted : file.entries tree = .ok known) :
    file.path.parent.hasNull = true ∨ (file.makeParents none tree).2 = none ∧
      (file.path.hasNull = true ∨ findings.all Finding.isWritable = false) := by
  cases escapes with
  | uninspectable plain tooLong => cases (entries_of_isTooLong plain tooLong).symm.trans accepted
  | nullAbove null => exact .inl null
  | nullInName null made => exact .inr ⟨made, .inl null⟩
  | numberTooLong _ made long => exact .inr ⟨made, .inr long⟩

/-- A save does not get to its temporary file. -/
theorem Escapes.refuses {known : List HistoryEntry} {stamp : Stamp} {fileName : LooseText}
    (escapes : file.Escapes tree findings) (accepted : file.entries tree = .ok known)
    (writable : (known ++ [HistoryEntry.new stamp fileName findings]).all HistoryEntry.isWritable)
    (plain : file.path.hasNull = false) : False := by
  have own : findings.all Finding.isWritable = true := by
    rw [List.all_append, Bool.and_eq_true] at writable
    simpa [HistoryEntry.isWritable, HistoryEntry.new] using writable.2
  rcases escapes.of_accepted accepted with null | ⟨-, null | long⟩
  · cases plain.symm.trans (hasNull_of_parent null)
  · cases plain.symm.trans null
  · cases own.symm.trans long

/-- **Which saves end in an error that is not reported.** -/
theorem escapes_iff (file : HistoryFile) (tree : FileTree) (stamp : Stamp) (fileName : LooseText)
    (findings : List Finding) :
    (∃ error, (file.save tree (.new stamp fileName findings)).outcome = .error error ∧
      error.isReported = false) ↔ file.Escapes tree findings := by
  have saves := saves_saveUnder file none tree (.new stamp fileName findings)
  have own : (HistoryEntry.new stamp fileName findings).isWritable = findings.all Finding.isWritable := rfl
  rw [save]
  generalize file.saveUnder none tree (.new stamp fileName findings) = result at saves
  constructor
  · rintro ⟨error, failed, unreported⟩
    cases saves with
    | unread unread =>
        cases failed
        obtain ⟨plain, tooLong⟩ := unreported_of_entries unread unreported
        exact .uninspectable plain tooLong
    | nullAbove _ null => exact .nullAbove null
    | unmade =>
        cases failed
        cases unreported
    | numberTooLong accepted _ made long =>
        -- What has been read can be written again, so that the new entry is what cannot.
        rw [List.all_append, isWritable_of_entries accepted] at long
        exact .numberTooLong accepted made (by simpa [own] using long)
    | nullInName _ _ made _ null => exact .nullInName null made
    | unwritten =>
        cases failed
        cases unreported
    | saved => cases failed
  · intro escapes
    cases saves with
    | unread unread => exact ⟨_, rfl, escapes.unreported unread⟩
    | nullAbove => exact ⟨_, rfl, rfl⟩
    | unmade accepted plain made =>
        rcases escapes.of_accepted accepted with null | ⟨none, -⟩
        · cases plain.symm.trans null
        · cases made.symm.trans none
    | numberTooLong => exact ⟨_, rfl, rfl⟩
    | nullInName => exact ⟨_, rfl, rfl⟩
    | unwritten accepted _ writable plain => exact (escapes.refuses accepted writable plain).elim
    | saved accepted _ writable plain => exact (escapes.refuses accepted writable plain).elim

end HistoryFile

namespace Service

/-- A scan is not answered: it is to be saved in a file, and the error of the save is not reported.
A scan that is not to be saved is never lost. -/
def Loses (service : Service) (scan : ScanRequest) : Prop :=
  scan.saveHistory = true ∧ ∃ file, service.store = .inFile file ∧
    file.Escapes service.tree scan.report.findings

variable {service : Service} {settings : Settings} {request : Request} {scan : ScanRequest}

/-- A history in memory does not keep a scan from being answered. -/
theorem not_loses_of_inMemory {entries : List HistoryEntry}
    (inMemory : service.store = .inMemory entries) : ¬ service.Loses scan := by
  rintro ⟨-, file, inFile, -⟩
  cases inMemory.symm.trans inFile

/-- What comes of a scan that is to be saved in a file. -/
theorem runScan_inFile {file : HistoryFile} (toSave : scan.saveHistory = true)
    (stored : service.store = .inFile file) (stamp : Stamp) (scanId : String) :
    (service.runScan stamp scanId scan).2 =
      match (file.save service.tree (.new stamp scan.fileName scan.report.findings)).outcome with
      | .ok _ => .respond 200 (.json (scan.report.toJson scanId))
      | .error error =>
        if error.isReported then .respond 200 (.json (scan.report.toJson scanId)) else .crash := by
  rw [runScan, if_pos toSave, record, stored]
  simp only [HistoryStore.save, ScanRequest.fileName_report]
  cases (file.save service.tree (.new stamp scan.fileName scan.report.findings)).outcome with
  | ok entry => rfl
  | error error => rfl

/-- A scan has one of two outcomes, and which one it is does not depend on the stamp of its entry. -/
theorem runScan_outcome (service : Service) (stamp : Stamp) (scanId : String) (scan : ScanRequest) :
    service.Loses scan ∧ (service.runScan stamp scanId scan).2 = .crash ∨
      ¬ service.Loses scan ∧ (service.runScan stamp scanId scan).2 =
        .respond 200 (.json (scan.report.toJson scanId)) := by
  cases toSave : scan.saveHistory with
  | false =>
      refine .inr ⟨fun loses => ?_, ?_⟩
      · cases toSave.symm.trans loses.1
      · rw [runScan, toSave]
        rfl
  | true =>
      cases stored : service.store with
      | inMemory entries =>
          refine .inr ⟨not_loses_of_inMemory stored, ?_⟩
          rw [runScan, if_pos toSave, record, stored]
          rfl
      | inFile file =>
          have escapes := file.escapes_iff service.tree stamp scan.fileName scan.report.findings
          have loses : service.Loses scan ↔ file.Escapes service.tree scan.report.findings := by
            simp only [Loses, toSave, stored, HistoryStore.inFile.injEq, true_and, exists_eq_left']
          rw [loses, ← escapes, runScan_inFile toSave stored]
          generalize (file.save service.tree _).outcome = outcome
          cases outcome with
          | ok entry => exact .inr ⟨fun ⟨_, impossible, _⟩ => (nomatch impossible), rfl⟩
          | error error =>
              cases reported : error.isReported with
              | true =>
                  refine .inr ⟨?_, if_pos reported⟩
                  rintro ⟨other, same, unreported⟩
                  cases same
                  cases reported.symm.trans unreported
              | false =>
                  exact .inl ⟨⟨error, rfl, reported⟩, if_neg (Bool.eq_false_iff.mp reported)⟩

/-- A scan that is not answered with its report: it is lost, or the report cannot be sent. The
history has no part in the second case. -/
def Fails (service : Service) (scan : ScanRequest) : Prop :=
  service.Loses scan ∨ ¬ scan.report.IsSendable

/-- The response to a valid request for a scan. -/
theorem response_of_scanRequest? (ready : service.settings = .ok settings)
    (asked : scanRequest? service.depth request = some scan) (stamp : Stamp) (scanId : String) :
    service.Fails scan ∧
        (service.handle stamp scanId request).2 = respond service.origins request .crash ∨
      ¬ service.Fails scan ∧ (service.handle stamp scanId request).2 =
        ⟨200, .json (scan.report.toJson scanId), originHeaders service.origins request⟩ := by
  obtain ⟨⟨method, -⟩, -⟩ := scanRequest?_eq_some_iff.mp asked
  have notHead : request.method ≠ "HEAD" := by
    rw [method]
    decide
  have sendable := scan.report_isSendable_iff scanId
  rw [handle_of_scanRequest? ready asked]
  rcases service.runScan_outcome stamp scanId scan with ⟨loses, crash⟩ | ⟨keeps, answer⟩
  · simp only [crash]
    exact .inl ⟨.inl loses, rfl⟩
  · simp only [answer]
    by_cases sent : scan.report.IsSendable
    · refine .inr ⟨not_or.mpr ⟨keeps, not_not_intro sent⟩, ?_⟩
      rw [sent_of_sendable (sendable.mpr sent), respond_of_method notHead]
    · refine .inl ⟨.inr sent, ?_⟩
      rw [sent_of_not_sendable (Bool.eq_false_iff.mpr (mt sendable.mp sent))]

/-- A response with a report is not that to an error. -/
theorem respond_crash_ne (origins : List String) (request : Request) (content : Content)
    (headers : Option OriginHeaders) : respond origins request .crash ≠ ⟨200, content, headers⟩ := by
  intro same
  have status : 500 = 200 := congrArg Response.status same
  cases status

/-- A valid scan is answered with its report unless it fails, and with status 500 if it does. -/
theorem answer_iff (ready : service.settings = .ok settings)
    (asked : scanRequest? service.depth request = some scan) (stamp : Stamp) (scanId : String) :
    ((service.handle stamp scanId request).2 =
        ⟨200, .json (scan.report.toJson scanId), originHeaders service.origins request⟩ ↔
      ¬ service.Fails scan) ∧
    ((service.handle stamp scanId request).2.status = 500 ↔ service.Fails scan) := by
  rcases response_of_scanRequest? ready asked stamp scanId with ⟨fails, crash⟩ | ⟨answers, report⟩
  · rw [crash]
    exact ⟨iff_of_false (respond_crash_ne _ _ _ _) (not_not_intro fails), iff_of_true rfl fails⟩
  · rw [report]
    exact ⟨iff_of_true rfl answers, iff_of_false (fun impossible => nomatch impossible) answers⟩

variable {second : Service} {others : Settings}

/-- Two services answer a valid scan alike, up to the origins that may call them, if it fails in both or in
neither. -/
theorem status_content_eq_iff (ready : service.settings = .ok settings)
    (secondReady : second.settings = .ok others)
    (asked : scanRequest? service.depth request = some scan)
    (askedAgain : scanRequest? second.depth request = some scan) (stamp other : Stamp)
    (scanId : String) :
    let answer := (service.handle stamp scanId request).2
    let again := (second.handle other scanId request).2
    (answer.status = again.status ∧ answer.content = again.content ↔
      (service.Fails scan ↔ second.Fails scan)) ∧
    (service.origins = second.origins → answer.status = again.status →
      answer.content = again.content → answer = again) := by
  intro answer again
  rcases response_of_scanRequest? ready asked stamp scanId with ⟨fails, crash⟩ | ⟨answers, report⟩
  · rcases response_of_scanRequest? secondReady askedAgain other scanId with
      ⟨failsAgain, crashAgain⟩ | ⟨answersAgain, reportAgain⟩
    · simp only [answer, again, crash, crashAgain]
      exact ⟨iff_of_true ⟨rfl, rfl⟩ (iff_of_true fails failsAgain), fun _ _ _ => rfl⟩
    · simp only [answer, again, crash, reportAgain]
      refine ⟨iff_of_false (fun same => ?_) fun both => answersAgain (both.mp fails), fun _ same => ?_⟩
      · cases same.1
      · cases same
  · rcases response_of_scanRequest? secondReady askedAgain other scanId with
      ⟨failsAgain, crashAgain⟩ | ⟨answersAgain, reportAgain⟩
    · simp only [answer, again, report, crashAgain]
      refine ⟨iff_of_false (fun same => ?_) fun both => answers (both.mpr failsAgain), fun _ same => ?_⟩
      · cases same.1
      · cases same
    · simp only [answer, again, report, reportAgain]
      exact ⟨iff_of_true ⟨trivial, trivial⟩ (iff_of_false answers answersAgain), fun same _ _ => by rw [same]⟩

end Service

open Service

/-- **When the answer to a scan does not depend on the history.** A valid request for a scan is
answered with status 200 and the report of its code, file name and selection, whatever the history
holds and whatever stands in the file tree, exactly where the save does not end in an error that the
history file does not report, and the report can be sent; otherwise it is answered with status 500. So two
services answer it with the same status and content, whatever they keep and whatever stamps they give,
exactly where the report cannot be sent, or the scan is lost in both or in neither; that the same origins
may call them makes the whole responses equal. A scan is never lost with a history in memory, or where it
is not to be saved. -/
theorem scan_answer_eq_iff {first second : Service} {settings others : Settings} {request : Request}
    {scan : ScanRequest} (firstReady : first.settings = .ok settings)
    (secondReady : second.settings = .ok others)
    (asked : scanRequest? first.depth request = some scan)
    (askedAgain : scanRequest? second.depth request = some scan)
    (stamp other : Stamp) (scanId : String) :
    let answer := (first.handle stamp scanId request).2
    let again := (second.handle other scanId request).2
    (answer = ⟨200, .json (scan.report.toJson scanId), originHeaders first.origins request⟩ ↔
      ¬ first.Loses scan ∧ scan.report.IsSendable) ∧
    (answer.status = 500 ↔ first.Loses scan ∨ ¬ scan.report.IsSendable) ∧
    (answer.status = again.status ∧ answer.content = again.content ↔
      (scan.report.IsSendable → (first.Loses scan ↔ second.Loses scan))) ∧
    (first.origins = second.origins →
      (answer = again ↔ (scan.report.IsSendable → (first.Loses scan ↔ second.Loses scan)))) := by
  intro answer again
  obtain ⟨reported, crashed⟩ := answer_iff firstReady asked stamp scanId
  obtain ⟨alike, whole⟩ :=
    status_content_eq_iff firstReady secondReady asked askedAgain stamp other scanId
  have fails : (first.Fails scan ↔ second.Fails scan) ↔
      (scan.report.IsSendable → (first.Loses scan ↔ second.Loses scan)) := by
    by_cases sent : scan.report.IsSendable <;> simp [Fails, sent]
  rw [fails] at alike
  refine ⟨reported.trans ?_, crashed, alike, fun sameOrigins => ⟨fun same => ?_, fun both => ?_⟩⟩
  · rw [Fails, not_or, Classical.not_not]
  · exact alike.mp ⟨congrArg Response.status same, congrArg Response.content same⟩
  · exact whole sameOrigins (alike.mpr both).1 (alike.mpr both).2

/-- A scan that is answered with a history in memory, and is lost where the history file has a name
that is too long. -/
theorem scan_answer_ne_long_name :
    let network : Network :=
      ⟨.reading (fun _ => none) 993, fun _ => .raised ⟨.connection, ""⟩, fun _ => .text none⟩
    let inMemory := Service.start ⟨[]⟩ ⟨[], []⟩ network 993 none
    let inFile : Service :=
      { inMemory with store := .inFile ⟨⟨"", [String.ofList (List.replicate 256 'a')]⟩⟩ }
    let request : Request :=
      ⟨"POST", "/scan", [], "\x7b\"code\":\"eval(x)\",\"filename\":\"a.js\"\x7d".toList⟩
    let scan : ScanRequest := ⟨"eval(x)", "a.js", none, true⟩
    let stamp : Stamp := ⟨"1", ⟨⟨2024, 2, 29, by decide⟩, .midnight, none⟩⟩
    scanRequest? 993 request = some scan ∧ inFile.Loses scan ∧ ¬ inMemory.Loses scan ∧
    (inFile.handle stamp "s" request).2.status = 500 ∧
    (inMemory.handle stamp "s" request).2 =
      ⟨200, .json ((Report.of "eval(x)" "a.js" none).toJson "s"), none⟩ ∧
    (inFile.handle stamp "s" request).2 ≠ (inMemory.handle stamp "s" request).2 := by
  intro network inMemory inFile request scan stamp
  have ready : inMemory.settings = .ok ⟨.openRouter, none, none, defaultBaseUrl, none, defaultTimeout,
      none, none, defaultOrigins⟩ := rfl
  have asked : scanRequest? 993 request = some scan := by decide +kernel
  have long : FilePath.maxNameBytes <
      FilePath.byteLength (String.ofList (List.replicate 256 'a')) := by
    rw [FilePath.byteLength, String.toList_ofList]
    decide +kernel
  have plain : FilePath.hasNull ⟨"", [String.ofList (List.replicate 256 'a')]⟩ = false := by
    rw [FilePath.hasNull]
    simp only [List.any_cons, String.toList_ofList, List.any_nil]
    decide +kernel
  have loses : inFile.Loses scan :=
    ⟨rfl, _, rfl, .uninspectable plain (.inr ⟨[], _, [], rfl, ⟨[], rfl, rfl⟩, long⟩)⟩
  have keeps : ¬ inMemory.Loses scan := not_loses_of_inMemory rfl
  have sendable : scan.report.IsSendable := ⟨by decide +kernel, by decide +kernel, by decide +kernel⟩
  have readyInFile : inFile.settings = inMemory.settings := rfl
  obtain ⟨-, status, -, apart⟩ :=
    scan_answer_eq_iff (readyInFile.trans ready) ready asked asked stamp stamp "s"
  have answered :=
    (scan_answer_eq_iff ready ready asked asked stamp stamp "s").1.mpr ⟨keeps, sendable⟩
  exact ⟨asked, loses, keeps, status.mpr (.inl loses), answered,
    fun same => keeps (((apart rfl).mp same sendable).mp loses)⟩

end SourceAudit
