import SourceAudit.Network.Library
import SourceAudit.Proofs.Service.Routing
import SourceAudit.Proofs.Service.Sendable

/-!
# Runs of the service

Requests are answered one after the other. With a history in memory, each valid scan that is to be saved
adds its entry, and any other request leaves the history as it was (`Service.perform_inMemory`). A scan is
recorded before its response is written, so it is also recorded when the response cannot be sent, and from
then on the history cannot be sent either. So at any time the history lists the scans that have been
answered, the last one first, exactly if none of the scans that were to be saved has failed
(`service_history_exact`). What a scan records is read off its request and its response
(`Service.Moment.recorded?`).
-/

namespace SourceAudit

namespace Service

/-- A request, with the stamp of an entry that it may record, the identifier of its scan, and what
comes of prompts at that time. -/
structure Call where
  request : Request
  stamp : Stamp
  scanId : String
  network : Network
  completer : Option Completer

/-- A call that has been answered, with the service before and after it, so that what it has changed
can be told. -/
structure Moment where
  call : Call
  response : Response
  before : Service
  after : Service

/-- The service as a call finds it: the network and what answers prompts may differ from call to
call. -/
def facing (service : Service) (call : Call) : Service :=
  { service with network := call.network, completer := call.completer }

/-- Answer a call. -/
def perform (service : Service) (call : Call) : Moment :=
  let (later, response) := (service.facing call).handle call.stamp call.scanId call.request
  ⟨call, response, service, later⟩

/-- The moments of a run, in order. Each call finds the store and the tree that the one before it
has left. -/
def run (service : Service) : List Call → List Moment
  | [] => []
  | call :: rest => service.perform call :: (service.perform call).after.run rest

/-- The member of a response whose content is an object. -/
def Response.member? (response : Response) (name : String) : Option Json :=
  match response.content with
  | .json value => value.get? name
  | .text _ => none

/-- A request for the history. -/
structure Request.AsksForHistory (request : Request) : Prop where
  method : request.method = "GET"
  path : request.path = "/history"

/-- The entry of a scan under a stamp: the name that was given, and the findings of the report. -/
def ScanRequest.entry (scan : ScanRequest) (stamp : Stamp) : HistoryEntry :=
  .new stamp scan.fileName scan.report.findings

namespace Moment

/-- What the request of a moment asks to be scanned, if it is a valid request for a scan. -/
def scan? (moment : Moment) : Option ScanRequest :=
  scanRequest? moment.before.depth moment.call.request

/-- A valid request for a scan that is to be saved. -/
def scanToSave? (moment : Moment) : Option ScanRequest :=
  moment.scan?.filter (·.saveHistory)

/-- The entry of a moment: that of a scan that is to be saved. -/
def saved? (moment : Moment) : Option HistoryEntry :=
  moment.scanToSave?.map (·.entry moment.call.stamp)

/-- What a moment should add to the history, as the history writes it. A scan that is to be saved and has
been answered adds its file name and the findings of the response. -/
def recorded? (moment : Moment) : Option Json :=
  moment.scanToSave?.bind fun scan =>
    if moment.response.status = 200 then
      (moment.response.member? "findings").map fun findings =>
        .obj [("id", .str moment.call.stamp.id), ("file_name", .str scan.fileName),
          ("findings", findings), ("created_at", .str moment.call.stamp.time.text)]
    else none

/-- How a valid scan is to be answered: with its findings, or with status 500 if its report cannot be
sent. -/
structure AnswersScan (moment : Moment) (scan : ScanRequest) : Prop where
  report : scan.report.IsSendable → moment.response.status = 200 ∧
    moment.response.member? "findings" = some (.arr (scan.report.findings.map Finding.toJson))
  failure : ¬ scan.report.IsSendable → moment.response.status = 500

/-- How the history is to be listed: newest first, or with status 500 if an entry cannot be sent.
One such entry keeps all the others from being listed. -/
structure Lists (moment : Moment) (entries : List HistoryEntry) : Prop where
  listing : (∀ entry ∈ entries, entry.isUnicode ∧ entry.isWritable) → moment.response.status = 200 ∧
    moment.response.content = .json (.arr (entries.reverse.map HistoryEntry.toJson))
  failure : ¬ (∀ entry ∈ entries, entry.isUnicode ∧ entry.isWritable) → moment.response.status = 500

/-- What a moment of a run is to be, where the history in memory holds `known`: the entry of its scan is
added to them, a valid scan is answered with its findings, and the history is listed. -/
structure IsExact (known : List HistoryEntry) (moment : Moment) : Prop where
  before : moment.before.store = .inMemory known
  after : moment.after.store = .inMemory (known ++ moment.saved?.toList)
  tree : moment.after.tree = moment.before.tree
  scanned : ∀ scan, moment.scan? = some scan → moment.AnswersScan scan
  listed : moment.call.request.AsksForHistory → moment.Lists known

end Moment

variable {service : Service} {settings : Settings} {known : List HistoryEntry} {call : Call}
  {scan : ScanRequest}

/-- A scan over a history in memory adds its entry where that is asked for, and is answered with its
report. -/
theorem runScan_inMemory (inMemory : service.store = .inMemory known) (stamp : Stamp)
    (scanId : String) (scan : ScanRequest) :
    service.runScan stamp scanId scan =
      ({ service with store := .inMemory (known ++
          if scan.saveHistory then [scan.entry stamp] else []) },
        .respond 200 (.json (scan.report.toJson scanId))) := by
  rw [runScan]
  cases scan.saveHistory with
  | true => simp only [↓reduceIte, record, inMemory, HistoryStore.save]; rfl
  | false =>
      simp only [Bool.false_eq_true, ↓reduceIte, List.append_nil]
      rw [← inMemory]

/-- The findings of a report are a member of the response that writes it. -/
theorem member?_findings (status : Nat) (report : Report) (scanId : String)
    (origin : Option OriginHeaders) :
    Response.member? ⟨status, .json (report.toJson scanId), origin⟩ "findings" =
      some (.arr (report.findings.map Finding.toJson)) := by
  simp [Response.member?, Json.get?, Report.toJson, Json.Members.get?]

/-- A call that asks for no scan leaves the history as it was. -/
theorem after_perform_of_not_scan (other : (service.perform call).scan? = none) :
    (service.perform call).after = service.facing call := by
  have asked : scanRequest? (service.facing call).depth call.request = none := other
  exact handle_of_not_scan asked call.stamp call.scanId

/-- A call that asks for a scan adds its entry where that is to be saved, and is answered with the report,
if it can be sent. -/
theorem perform_of_scan (ready : service.settings = .ok settings)
    (inMemory : service.store = .inMemory known) (asked : (service.perform call).scan? = some scan) :
    (service.perform call).after = { service.facing call with store := .inMemory (known ++
        if scan.saveHistory then [scan.entry call.stamp] else []) } ∧
      (service.perform call).AnswersScan scan := by
  have requested : scanRequest? (service.facing call).depth call.request = some scan := asked
  obtain ⟨⟨method, -⟩, -⟩ := scanRequest?_eq_some_iff.mp requested
  have notHead : call.request.method ≠ "HEAD" := by
    rw [method]
    decide
  have facingStore : (service.facing call).store = .inMemory known := inMemory
  have facingSettings : (service.facing call).settings = .ok settings := ready
  have handled := handle_of_scanRequest? facingSettings requested call.stamp call.scanId
  rw [runScan_inMemory facingStore] at handled
  rw [perform, handled]
  refine ⟨rfl, fun sendable => ?_, fun lost => ?_⟩
  · have sent := (scan.report_isSendable_iff call.scanId).mpr sendable
    dsimp only
    rw [sent_of_sendable sent, respond_of_method notHead]
    exact ⟨rfl, member?_findings ..⟩
  · have unsent := mt (scan.report_isSendable_iff call.scanId).mp lost
    dsimp only
    rw [sent_of_not_sendable (Bool.eq_false_iff.mpr unsent)]
    rfl

/-- A history can be sent if each of its entries can. -/
theorem isSendable_history_iff (entries : List HistoryEntry) :
    (Json.arr (entries.reverse.map HistoryEntry.toJson)).isSendable = true ↔
      ∀ entry ∈ entries, entry.isUnicode ∧ entry.isWritable := by
  rw [Json.isSendable, Json.passes, Json.allPass_iff, List.forall_mem_map]
  refine forall_congr' fun entry => ?_
  rw [List.mem_reverse]
  refine imp_congr_right fun _ => ?_
  rw [← Bool.and_eq_true, ← entry.isSendable_toJson]
  rfl

/-- A call that asks for the history is answered with it, if it can be sent. -/
theorem perform_of_history (ready : service.settings = .ok settings)
    (inMemory : service.store = .inMemory known) (asks : call.request.AsksForHistory) :
    (service.perform call).Lists known := by
  obtain ⟨method, path⟩ := asks
  have notHead : call.request.method ≠ "HEAD" := by
    rw [method]
    decide
  have listed : (service.facing call).store.list (service.facing call).tree = .ok known.reverse := by
    rw [show (service.facing call).store = .inMemory known from inMemory, HistoryStore.list]
  have facing : (service.facing call).settings = .ok settings := ready
  have handled : (service.facing call).handle call.stamp call.scanId call.request = _ :=
    handle_of_history method path call.stamp call.scanId
  simp only [answerHistory, facing, listed] at handled
  rw [perform, handled]
  refine ⟨fun sendable => ?_, fun lost => ?_⟩
  · dsimp only
    rw [sent_of_sendable ((isSendable_history_iff known).mpr sendable), respond_of_method notHead]
    exact ⟨rfl, rfl⟩
  · have unsent := mt (isSendable_history_iff known).mp lost
    dsimp only
    rw [sent_of_not_sendable (Bool.eq_false_iff.mpr unsent)]
    rfl

/-- **One call keeps the history exact.** -/
theorem perform_inMemory (ready : service.settings = .ok settings)
    (inMemory : service.store = .inMemory known) (call : Call) :
    (service.perform call).after.settings = .ok settings ∧
      (service.perform call).IsExact known := by
  have listed : call.request.AsksForHistory → (service.perform call).Lists known :=
    perform_of_history ready inMemory
  cases asked : (service.perform call).scan? with
  | none =>
      have same := after_perform_of_not_scan asked
      have nothing : (service.perform call).saved? = none := by
        rw [Moment.saved?, Moment.scanToSave?, asked]
        rfl
      refine ⟨by rw [same]; exact ready, inMemory, ?_, by rw [same]; rfl, ?_, listed⟩
      · rw [same, nothing, Option.toList_none, List.append_nil]
        exact inMemory
      · intro scan impossible
        cases asked.symm.trans impossible
  | some scan =>
      obtain ⟨added, answers⟩ := perform_of_scan ready inMemory asked
      have entry : (service.perform call).saved?.toList =
          if scan.saveHistory then [scan.entry call.stamp] else [] := by
        rw [Moment.saved?, Moment.scanToSave?, asked, Option.filter_some]
        cases scan.saveHistory <;> rfl
      refine ⟨by rw [added]; exact ready, inMemory, by rw [added, entry], by rw [added]; rfl, ?_, listed⟩
      intro other same
      cases asked.symm.trans same
      exact answers

namespace Moment.IsExact

variable {moment : Moment}

/-- The entry of a scan is what it should add if the scan has been answered, and an answered scan can be
sent. -/
theorem recorded?_eq (exactly : moment.IsExact known) :
    moment.recorded? =
      if moment.response.status = 200 then moment.saved?.map HistoryEntry.toJson else none := by
  cases found : moment.scanToSave? with
  | none => simp [Moment.recorded?, Moment.saved?, found]
  | some scan =>
      obtain ⟨asked, -⟩ := Option.filter_eq_some_iff.mp found
      obtain ⟨report, failure⟩ := exactly.scanned scan asked
      by_cases sendable : scan.report.IsSendable
      · obtain ⟨answered, findings⟩ := report sendable
        simp [Moment.recorded?, Moment.saved?, found, answered, findings, ScanRequest.entry,
          HistoryEntry.toJson, HistoryEntry.new]
      · have unanswered : moment.response.status ≠ 200 := by
          rw [failure sendable]
          decide
        simp [Moment.recorded?, found, unanswered]

/-- The entry of a scan that has been answered can be sent. -/
theorem sendable_of_saved? (exactly : moment.IsExact known) {entry : HistoryEntry}
    (saved : moment.saved? = some entry) (answered : moment.response.status = 200) :
    entry.isUnicode ∧ entry.isWritable := by
  obtain ⟨scan, found, rfl⟩ := Option.map_eq_some_iff.mp saved
  obtain ⟨asked, -⟩ := Option.filter_eq_some_iff.mp found
  have sendable : scan.report.IsSendable := by
    by_contra lost
    rw [(exactly.scanned scan asked).failure lost] at answered
    cases answered
  have name := sendable.name
  rw [scan.fileName_report] at name
  have findings : scan.report.findings.all Finding.isUnicode = true := Report.isUnicode_findings_of
  rw [ScanRequest.entry, HistoryEntry.isUnicode_new, HistoryEntry.isWritable_new, name, findings,
    sendable.lines]
  exact ⟨rfl, rfl⟩

end Moment.IsExact

/-- Every moment of a run is exact. The induction is on the calls; what is carried along is that the
history in memory holds the entries that are known. -/
theorem isExact_of_run {calls : List Call} (ready : service.settings = .ok settings)
    (inMemory : service.store = .inMemory known) {earlier later : List Moment} {moment : Moment}
    (split : service.run calls = earlier ++ moment :: later) :
    moment.IsExact (known ++ earlier.filterMap Moment.saved?) := by
  induction calls generalizing service known earlier with
  | nil => simp [run] at split
  | cons call rest ih =>
      obtain ⟨stillReady, exactly⟩ := perform_inMemory ready inMemory call
      rw [run] at split
      generalize service.perform call = first at split stillReady exactly
      cases earlier with
      | nil =>
          obtain ⟨rfl, -⟩ := List.cons.inj split
          rw [List.filterMap_nil, List.append_nil]
          exact exactly
      | cons other earlier =>
          obtain ⟨rfl, remaining⟩ := List.cons.inj split
          have others := ih stillReady exactly.after remaining
          rw [List.append_assoc] at others
          rw [List.filterMap_cons]
          cases saved : first.saved? <;> simpa [saved] using others

/-- A run answers its calls, in order. -/
theorem map_call_run (service : Service) (calls : List Call) :
    (service.run calls).map (·.call) = calls := by
  induction calls generalizing service with
  | nil => rfl
  | cons call rest ih =>
      rw [run, List.map_cons, ih]
      rfl

/-- Some moments add no more than the entries of their scans, and as many only if every scan that was to be
saved has been answered. -/
theorem length_recorded_le {moments : List Moment}
    (exactly : ∀ moment ∈ moments, ∃ known, moment.IsExact known) :
    (moments.filterMap Moment.recorded?).length ≤ (moments.filterMap Moment.saved?).length ∧
      ((moments.filterMap Moment.recorded?).length = (moments.filterMap Moment.saved?).length →
        ∀ moment ∈ moments, moment.saved? ≠ none → moment.response.status = 200) := by
  induction moments with
  | nil => exact ⟨Nat.le_refl 0, fun _ => List.forall_mem_nil _⟩
  | cons moment rest ih =>
      obtain ⟨⟨known, first⟩, others⟩ := List.forall_mem_cons.mp exactly
      obtain ⟨fewer, answered⟩ := ih others
      have recorded := first.recorded?_eq
      rw [List.filterMap_cons, List.filterMap_cons]
      cases saved : moment.saved? with
      | none =>
          have nothing : moment.recorded? = none := by simp [recorded, saved]
          simp only [nothing]
          exact ⟨fewer, fun same => List.forall_mem_cons.mpr
            ⟨fun some => (some saved).elim, answered same⟩⟩
      | some entry =>
          by_cases status : moment.response.status = 200
          · have added : moment.recorded? = some entry.toJson := by simp [recorded, saved, status]
            simp only [added, List.length_cons]
            exact ⟨Nat.succ_le_succ fewer, fun same => List.forall_mem_cons.mpr
              ⟨fun _ => status, answered (Nat.succ.inj same)⟩⟩
          · have nothing : moment.recorded? = none := by simp [recorded, status]
            simp only [nothing, List.length_cons]
            refine ⟨Nat.le_succ_of_le fewer, fun same => ?_⟩
            omega

/-- Where every scan that was to be saved has been answered, the moments add the entries of their scans. -/
theorem filterMap_recorded?_eq {moments : List Moment}
    (exactly : ∀ moment ∈ moments, ∃ known, moment.IsExact known)
    (answered : ∀ moment ∈ moments, moment.saved? ≠ none → moment.response.status = 200) :
    moments.filterMap Moment.recorded? =
      (moments.filterMap Moment.saved?).map HistoryEntry.toJson := by
  rw [List.map_filterMap]
  refine List.filterMap_congr fun moment member => ?_
  obtain ⟨known, exactly⟩ := exactly moment member
  rw [exactly.recorded?_eq]
  cases saved : moment.saved? with
  | none => simp
  | some entry => rw [if_pos (answered moment member (by simp [saved]))]

end Service

open Service

/-- **The history in memory is that of the recorded scans, as long as each of them can be sent.** Let
requests of any kind be answered one after the other, whatever comes of prompts at each of them. A request
adds the entry of its scan, if it is a valid one that is to be saved, and changes nothing else. A valid scan
is answered with its selected findings, or with status 500 if its report cannot be sent; its entry is added
all the same. A request for the history is answered with all entries, newest first, or with status 500 if one
of them cannot be sent. So the answer has exactly one entry for each scan so far that was to be saved and
has been answered, with the file name of its request and the findings of its response, if and only if every
scan so far that was to be saved has been answered, and the entries from the start can be sent. -/
theorem service_history_exact {service : Service} {settings : Settings}
    {initial : List HistoryEntry} (ready : service.settings = .ok settings)
    (inMemory : service.store = .inMemory initial) (calls : List Call) :
    (service.run calls).map (·.call) = calls ∧
    ∀ earlier moment later, service.run calls = earlier ++ moment :: later →
      let saved := initial ++ earlier.filterMap Moment.saved?
      moment.before.store = .inMemory saved ∧
      moment.after.store = .inMemory (saved ++ moment.saved?.toList) ∧
      moment.after.tree = moment.before.tree ∧
      (∀ scan, moment.scan? = some scan → moment.AnswersScan scan) ∧
      (moment.call.request.AsksForHistory →
        moment.Lists saved ∧
        (moment.response.status = 200 ∧
          moment.response.content = .json (.arr ((earlier.filterMap Moment.recorded?).reverse ++
            (initial.map HistoryEntry.toJson).reverse)) ↔
          (∀ entry ∈ initial, entry.isUnicode ∧ entry.isWritable) ∧
            ∀ other ∈ earlier, other.saved? ≠ none → other.response.status = 200)) := by
  refine ⟨map_call_run service calls, ?_⟩
  intro earlier moment later split saved
  have exactly := isExact_of_run ready inMemory split
  have each : ∀ moment ∈ earlier, ∃ known, moment.IsExact known := by
    intro other member
    obtain ⟨front, back, rfl⟩ := List.append_of_mem member
    rw [List.append_assoc, List.cons_append] at split
    exact ⟨_, isExact_of_run ready inMemory split⟩
  refine ⟨exactly.before, exactly.after, exactly.tree, exactly.scanned, fun asks => ?_⟩
  obtain ⟨listing, failure⟩ := exactly.listed asks
  refine ⟨⟨listing, failure⟩, ?_⟩
  constructor
  · rintro ⟨status, content⟩
    have sendable : ∀ entry ∈ saved, entry.isUnicode ∧ entry.isWritable := by
      by_contra lost
      rw [failure lost] at status
      cases status
    refine ⟨fun entry member => sendable entry (List.mem_append_left _ member), ?_⟩
    -- As many entries are listed as have been recorded, so every one that was saved has been.
    have listed := (listing sendable).2.symm.trans content
    injection listed with listed
    injection listed with listed
    have sizes := congrArg List.length listed
    simp only [List.length_map, List.length_reverse, List.length_append] at sizes
    exact (length_recorded_le each).2 (by omega)
  · rintro ⟨sound, answered⟩
    have sendable : ∀ entry ∈ saved, entry.isUnicode ∧ entry.isWritable := by
      intro entry member
      rcases List.mem_append.mp member with old | recent
      · exact sound entry old
      · obtain ⟨other, present, added⟩ := List.mem_filterMap.mp recent
        obtain ⟨known, exactly⟩ := each other present
        exact exactly.sendable_of_saved? added (answered other present (by simp [added]))
    obtain ⟨status, content⟩ := listing sendable
    refine ⟨status, content.trans ?_⟩
    rw [filterMap_recorded?_eq each answered, List.reverse_append, List.map_append, List.map_reverse,
      List.map_reverse]

/-- A scan of a file whose name has a numeric escape of a lone surrogate: the scan fails, and so does the
history from then on, though no scan has been answered. -/
theorem service_history_stuck_loose_name :
    let service := Service.start ⟨[]⟩ ⟨[], []⟩
      ⟨.reading (fun _ => none) 993, fun _ => .raised ⟨.connection, ""⟩, fun _ => .text none⟩ 993 none
    let ask (method path body : String) : Call :=
      ⟨⟨method, path, [], body.toList⟩, ⟨"1", ⟨⟨2024, 2, 29, by decide⟩, .midnight, none⟩⟩, "s",
        service.network, service.completer⟩
    let post := ask "POST" "/scan" "\x7b\"code\":\"eval(x)\",\"filename\":\"\\ud800.js\"\x7d"
    let get := ask "GET" "/history" ""
    service.settings = .ok ⟨.openRouter, none, none, defaultBaseUrl, none, defaultTimeout, none, none,
      defaultOrigins⟩ ∧
    service.store = .inMemory [] ∧
    ∃ scan history, service.run [post, get] = [scan, history] ∧
      scan.saved? ≠ none ∧ scan.response.status = 500 ∧ scan.recorded? = none ∧
      history.call.request.AsksForHistory ∧ history.response.status = 500 := by
  intro service ask post get
  have ready : service.settings = .ok ⟨.openRouter, none, none, defaultBaseUrl, none, defaultTimeout,
      none, none, defaultOrigins⟩ := rfl
  have inMemory : service.store = .inMemory [] := rfl
  let scan := service.perform post
  let history := scan.after.perform get
  let name : LooseText := ⟨"", [(⟨0xd800, by decide⟩, ".js")]⟩
  have ran : service.run [post, get] = [scan, history] := rfl
  have asked : scan.scan? = some ⟨"eval(x)", name, none, true⟩ := by
    have requested : scanRequest? 993 post.request = some ⟨"eval(x)", name, none, true⟩ := by
      decide +kernel
    exact requested
  have saved : scan.saved? = some (ScanRequest.entry ⟨"eval(x)", name, none, true⟩ post.stamp) := by
    rw [Moment.saved?, Moment.scanToSave?, asked]
    rfl
  obtain ⟨-, exactly⟩ := service_history_exact ready inMemory [post, get]
  obtain ⟨-, -, -, answers, -⟩ := exactly [] scan [history] ran
  obtain ⟨-, -, -, -, listed⟩ := exactly [scan] history [] ran
  have failed : scan.response.status = 500 :=
    (answers _ asked).failure fun sendable => Bool.false_ne_true sendable.name
  have asks : history.call.request.AsksForHistory := ⟨rfl, by decide +kernel⟩
  refine ⟨ready, inMemory, scan, history, ran, by simp [saved], failed, ?_, asks, ?_⟩
  · rw [Moment.recorded?, Moment.scanToSave?, asked]
    simp [failed]
  · refine (listed asks).1.failure fun sendable => ?_
    have loose := (sendable _ (List.mem_append_right _ (List.mem_filterMap.mpr
      ⟨scan, List.mem_singleton_self scan, saved⟩))).1
    rw [ScanRequest.entry, HistoryEntry.isUnicode_new] at loose
    cases loose

end SourceAudit
