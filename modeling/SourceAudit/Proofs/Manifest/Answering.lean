import SourceAudit.Proofs.Json.RoundTrip
import SourceAudit.Proofs.Json.Strict
import SourceAudit.Proofs.Manifest.Entries
import SourceAudit.Proofs.Report.Selection
import SourceAudit.Proofs.Text.Encode

/-!
# Which manifests are answered

An entry of a manifest gets a result of its own unless it is no object, its path can name no file, or a
report would have to be made under a name that is no text (`Scannable`). Whether there is a text to report
on, and so whether the name matters, may depend on the entries before it, which can have read the stream
that its path stands for. One entry without a result is enough to stop the work on all the others.
A manifest is answered unless it has such an entry, asks for a scan of code under such a name, or goes
beyond a limit of reading; the answer is one object, and it is printed unless an entry has closed standard
output (`answered_iff_not_stops`).
-/

namespace SourceAudit.Manifest

/-- A value that can name a file: a text that can be handed to the system, or the number of a descriptor.
The words for truth are the numbers one and zero. -/
inductive IsPath : Json → Prop
  | text {path : LooseText} (plain : ∀ point ∈ path.points, Text.IsPathPoint point) : IsPath (.str path)
  | number {number : Int} (least : 0 ≤ number) (below : number < 0x80000000) : IsPath (.int number)
  | word (value : Bool) : IsPath (.bool value)

/-- There is something to read at a path: a file, or what a stream has left. Only then does the name
of the file matter, as nothing is scanned otherwise. -/
inductive Finds (files : Reader) (streams : OpenStreams) : Json → Prop
  | file {path : LooseText} {place bytes : List UInt8} (encoded : Text.pathBytes path = .ok place)
      (found : files place = .ok bytes) : Finds files streams (.str path)
  | stream {path : Json} {number : Nat} {left : List UInt8} (named : pathDescriptor? path = some number)
      (gives : streams.stream? number = some (.bytes left)) : Finds files streams path

/-- When an entry of a manifest gets a result: it has no path, or one that can name a file; and what it
names a file by that is there is a text. Where it names the file by nothing, the path has to be a text,
for the name is taken from it. -/
inductive Scannable (files : Reader) (streams : OpenStreams) : Json → Prop
  | pathless {members : Json.Members} (missing : pathOf members = none) :
      Scannable files streams (.obj members)
  | titled {members : Json.Members} {path title : Json} (located : pathOf members = some path)
      (titled : titleOf members = some title) (usable : IsPath path)
      (named : Finds files streams path → ∃ name, title = .str name) :
      Scannable files streams (.obj members)
  | untitled {members : Json.Members} {path : LooseText}
      (located : pathOf members = some (.str path)) (untitled : titleOf members = none)
      (usable : IsPath (.str path)) : Scannable files streams (.obj members)

/-- When the work on a manifest stops without an answer: the document goes beyond a limit of reading,
one of its entries gets no result in its turn, or the name of the code that it holds is no text. -/
inductive Stops (system : System) (source : Json.Source) : Prop
  | numberTooLong {digits : Nat}
      (beyond : Json.parseTyped system.depth source = .error (.numberTooLong digits))
  | tooDeep {inArray : Bool} (beyond : Json.parseTyped system.depth source = .error (.tooDeep inArray))
  | entry {members : Json.Members} {selection : Severity.Selection} {entries : List Json} {index : Nat}
      {entry : Json} (parsed : Json.parseTyped system.depth source = .ok (.obj members))
      (accepted : severities (members.get? "severities") = .ok selection)
      (listed : members.get? "files" = some (.arr entries)) (placed : entries[index]? = some entry)
      (stuck : ¬ Scannable system.files (system.streams.afterEntries (entries.take index)) entry)
  | name {members : Json.Members} {selection : Severity.Selection} {code : String} {name : Json}
      (parsed : Json.parseTyped system.depth source = .ok (.obj members))
      (accepted : severities (members.get? "severities") = .ok selection)
      (unlisted : ∀ entry rest, members.get? "files" ≠ some (.arr (entry :: rest)))
      (held : codeOf (members.get? "code") = some code)
      (named : firstPresent [members.get? "filename"] = some name)
      (notText : ∀ text, name ≠ .str text)

/-- An entry of the manifest names standard output by its path. Unless it is closed already, reading
it closes it before the answer is printed. -/
inductive ClosesOutput (system : System) (source : Json.Source) : Prop
  | entry {members : Json.Members} {selection : Severity.Selection} {entries : List Json} {entry : Json}
      (parsed : Json.parseTyped system.depth source = .ok (.obj members))
      (accepted : severities (members.get? "severities") = .ok selection)
      (listed : members.get? "files" = some (.arr entries)) (member : entry ∈ entries)
      (named : entryDescriptor? entry = some standardOutput)

variable {files : Reader} {streams : OpenStreams} {selection : Severity.Selection}
  {members : Json.Members} {path value entry : Json} {content : String}

theorem exists_readText_iff {path : LooseText} :
    (∃ outcome, readText files path = .ok outcome) ↔ ∀ point ∈ path.points, Text.IsPathPoint point := by
  rw [← Text.exists_pathBytes_iff]
  unfold readText
  split
  next error fault =>
    rw [fault]
    exact iff_of_false (fun ⟨_, same⟩ => nomatch same) fun ⟨_, same, _⟩ => nomatch same
  next place encoded =>
    rw [encoded]
    split
    next null =>
      rw [List.contains_iff_mem] at null
      refine iff_of_false (fun ⟨_, same⟩ => nomatch same) ?_
      rintro ⟨_, same, noNull⟩
      cases same
      exact noNull null
    next noNull =>
      rw [List.contains_iff_mem] at noNull
      refine iff_of_true ?_ ⟨place, rfl, noNull⟩
      split <;> exact ⟨_, rfl⟩

/-- A text that can name a file has content exactly when there is a file. -/
theorem exists_content_iff {path : LooseText} {outcome : Except LooseText String}
    (looked : readText files path = .ok outcome) :
    (∃ content, outcome = .ok content) ↔
      ∃ place bytes, Text.pathBytes path = .ok place ∧ files place = .ok bytes := by
  unfold readText at looked
  split at looked
  next => cases looked
  next place encoded =>
    rw [encoded]
    split at looked
    next => cases looked
    next =>
      split at looked
      next bytes found =>
        cases looked
        exact iff_of_true ⟨_, rfl⟩ ⟨place, bytes, rfl, found⟩
      next error missing =>
        cases looked
        refine iff_of_false (fun ⟨_, same⟩ => nomatch same) ?_
        rintro ⟨_, bytes, same, found⟩
        cases same
        cases missing.symm.trans found

/-- **What can be read.** There is an outcome exactly for the values that can name a file. -/
theorem exists_outcomeOf_iff :
    (∃ outcome, outcomeOf files streams path = .ok outcome) ↔ IsPath path := by
  cases path with
  | str name =>
      rw [outcomeOf_of_file rfl, exists_readText_iff]
      exact ⟨.text, fun | .text plain => plain⟩
  | int number =>
      by_cases inRange : 0 ≤ number ∧ number < 0x80000000
      · have named : placeOf (.int number) = .ok (.descriptor number.toNat) := by
          rw [placeOf, descriptorOf, if_neg (by omega), if_neg (by omega)]
          rfl
        rw [outcomeOf_of_descriptor named]
        exact iff_of_true ⟨_, rfl⟩ (.number inRange.1 inRange.2)
      · obtain ⟨error, fault⟩ : ∃ error, placeOf (.int number) = .error error := by
          rw [placeOf, descriptorOf]
          split
          next => exact ⟨_, rfl⟩
          next =>
            rw [if_pos (by omega)]
            exact ⟨_, rfl⟩
        rw [outcomeOf_of_error fault]
        refine iff_of_false (fun ⟨_, same⟩ => nomatch same) ?_
        rintro ⟨⟩
        next least below => exact inRange ⟨least, below⟩
  | bool value =>
      rw [outcomeOf_of_descriptor rfl]
      exact iff_of_true ⟨_, rfl⟩ (.word value)
  | _ =>
      rw [outcomeOf_of_error rfl]
      exact iff_of_false (fun ⟨_, same⟩ => nomatch same) nofun

/-- A value that names a file is a text. -/
theorem eq_str_of_placeOf {name : LooseText} (named : placeOf path = .ok (.path name)) :
    path = .str name := by
  cases path with
  | str text =>
      cases named
      rfl
  | int number =>
      obtain ⟨_, -, same⟩ := map_eq_ok_iff.mp named
      cases same
  | _ => cases named

theorem exists_readDescriptor_iff {number : Nat} :
    (∃ content, readDescriptor streams path number = .ok content) ↔
      ∃ left, streams.stream? number = some (.bytes left) := by
  unfold readDescriptor
  cases gives : streams.stream? number with
  | none => simp
  | some stream => cases stream <;> simp

/-- A value that is read has content exactly when there is something to read. -/
theorem exists_content_iff_finds {outcome : Except LooseText String}
    (looked : outcomeOf files streams path = .ok outcome) :
    (∃ content, outcome = .ok content) ↔ Finds files streams path := by
  cases named : placeOf path with
  | error error =>
      rw [outcomeOf_of_error named] at looked
      cases looked
  | ok place =>
      cases place with
      | path name =>
          obtain rfl := eq_str_of_placeOf named
          rw [outcomeOf_of_file named] at looked
          rw [exists_content_iff looked]
          constructor
          · rintro ⟨place, bytes, encoded, found⟩
            exact .file encoded found
          · rintro (⟨encoded, found⟩ | ⟨numbered, -⟩)
            · exact ⟨_, _, encoded, found⟩
            · cases numbered
      | descriptor number =>
          have numbered : pathDescriptor? path = some number := by rw [pathDescriptor?, named]
          rw [outcomeOf_of_descriptor named, Except.ok.injEq] at looked
          rw [← looked, exists_readDescriptor_iff]
          constructor
          · rintro ⟨left, gives⟩
            exact .stream numbered gives
          · rintro (⟨-, -⟩ | ⟨same, gives⟩)
            · cases numbered
            · rw [numbered, Option.some.injEq] at same
              exact ⟨_, same ▸ gives⟩

/-- Only a text can be the name of a report. -/
theorem reportName_eq_ok_iff {name : LooseText} : reportName value = .ok name ↔ value = .str name := by
  have notText (value : Json) (hasDot : Bool) :
      reportName.notText value hasDot ≠ .ok name := by
    cases hasDot <;> exact fun impossible => nomatch impossible
  cases value with
  | str text => simp only [reportName, Except.ok.injEq, Json.str.injEq]
  | arr items => exact iff_of_false (notText _ _) fun impossible => nomatch impossible
  | obj members => exact iff_of_false (notText _ _) fun impossible => nomatch impossible
  | _ => exact iff_of_false (fun impossible => nomatch impossible) fun impossible => nomatch impossible

theorem scanText_eq_ok_iff {report : Report} : scanText content value selection = .ok report ↔
    ∃ name, value = .str name ∧ report = Report.of content name selection := by
  rw [scanText, map_eq_ok_iff]
  refine exists_congr fun name => ?_
  rw [reportName_eq_ok_iff]
  exact and_congr_right fun _ => eq_comm

/-- What is read gives a result unless there is content and a name for it that is no text. -/
theorem exists_readResult_iff {name : Option Json} {outcome : Except LooseText String} :
    (∃ result, readResult selection name path outcome = .ok result) ↔
      ((∃ content, outcome = .ok content) → ∃ text, name.getD (.str "") = .str text) := by
  cases outcome with
  | error message => exact iff_of_true ⟨_, rfl⟩ fun ⟨_, same⟩ => nomatch same
  | ok content =>
      simp only [readResult, map_eq_ok_iff, scanText_eq_ok_iff]
      constructor
      · rintro ⟨_, _, ⟨text, named, -⟩, -⟩ -
        exact ⟨text, named⟩
      · intro named
        obtain ⟨text, same⟩ := named ⟨content, rfl⟩
        exact ⟨_, _, ⟨text, same, rfl⟩, rfl⟩

/-- An entry with a path and a name for it gets a result if the path can name a file, and the name is
a text where it is needed. -/
theorem exists_located_iff {name : Option Json} :
    (∃ result, ((outcomeOf files streams path).mapError .badPath).bind
        (readResult selection name path) = .ok result) ↔
      IsPath path ∧ (Finds files streams path → ∃ text, name.getD (.str "") = .str text) := by
  have looks : (∃ outcome, outcomeOf files streams path = .ok outcome) ↔ IsPath path :=
    exists_outcomeOf_iff
  simp only [bind_eq_ok_iff, mapError_eq_ok_iff]
  rw [← looks]
  constructor
  · rintro ⟨result, outcome, looked, made⟩
    rw [← exists_content_iff_finds looked]
    exact ⟨⟨outcome, looked⟩, exists_readResult_iff.mp ⟨result, made⟩⟩
  · rintro ⟨⟨outcome, looked⟩, named⟩
    rw [← exists_content_iff_finds looked] at named
    obtain ⟨result, made⟩ := exists_readResult_iff.mpr named
    exact ⟨result, outcome, looked, made⟩

theorem entryName_of_titled {title : Json} (titled : titleOf members = some title)
    (path : Option Json) : entryName members path = .ok (some title) := by
  unfold entryName
  rw [← titleOf, titled]

theorem entryName_of_untitled (untitled : titleOf members = none) :
    entryName members (some path) =
      (baseNameOf path).map fun name => if name.isTruthy then some name else none := by
  unfold entryName
  rw [← titleOf, untitled]

theorem scannable_titled_iff {title : Json} (located : pathOf members = some path)
    (titled : titleOf members = some title) : Scannable files streams (.obj members) ↔
      IsPath path ∧ (Finds files streams path → ∃ name, title = .str name) := by
  constructor
  · intro scannable
    cases scannable with
    | pathless missing => cases located.symm.trans missing
    | titled located' titled' usable named =>
        cases located.symm.trans located'
        cases titled.symm.trans titled'
        exact ⟨usable, named⟩
    | untitled _ untitled => cases titled.symm.trans untitled
  · exact fun ⟨usable, named⟩ => .titled located titled usable named

theorem scannable_untitled_iff (located : pathOf members = some path)
    (untitled : titleOf members = none) : Scannable files streams (.obj members) ↔
      (∃ name, path = .str name) ∧ IsPath path := by
  constructor
  · intro scannable
    cases scannable with
    | pathless missing => cases located.symm.trans missing
    | titled _ titled => cases untitled.symm.trans titled
    | untitled located' _ usable =>
        cases located.symm.trans located'
        exact ⟨⟨_, rfl⟩, usable⟩
  · rintro ⟨⟨name, rfl⟩, usable⟩
    exact .untitled located untitled usable

/-- **Which entries get a result.** -/
theorem exists_resultOf_iff (selection : Severity.Selection) :
    (∃ result, resultOf files selection streams entry = .ok result) ↔ Scannable files streams entry := by
  cases entry with
  | obj members =>
      cases located : pathOf members with
      | none =>
          refine iff_of_true ?_ (.pathless located)
          rw [resultOf_of_pathless located, entryName]
          split <;> exact ⟨_, rfl⟩
      | some path =>
          rw [resultOf_of_located located]
          cases titled : titleOf members with
          | some title =>
              rw [entryName_of_titled titled, scannable_titled_iff located titled]
              exact exists_located_iff
          | none =>
              rw [entryName_of_untitled titled, scannable_untitled_iff located titled]
              cases path with
              | str name =>
                  refine exists_located_iff.trans
                    ⟨fun both => ⟨⟨name, rfl⟩, both.1⟩, fun both => ⟨both.2, ?_⟩⟩
                  intro _
                  dsimp only
                  split <;> exact ⟨_, rfl⟩
              | _ => exact iff_of_false (fun ⟨_, same⟩ => nomatch same) fun ⟨⟨_, same⟩, _⟩ => nomatch same
  | _ => exact iff_of_false (fun ⟨_, same⟩ => nomatch same) nofun

/-- One entry without a result in its turn is enough for there to be no results. -/
theorem exists_scanEntries_iff_scannable {entries : List Json} (selection : Severity.Selection) :
    (∃ results left, scanEntries files selection streams entries = .ok (results, left)) ↔
      ∀ index entry, entries[index]? = some entry →
        Scannable files (streams.afterEntries (entries.take index)) entry := by
  rw [exists_scanEntries_iff]
  simp only [exists_resultOf_iff]

section Answers

variable {system : System} {source : Json.Source} {crash : Crash} {first : Json} {rest : List Json}

/-- A manifest that lists files is answered with their results, if each of them has one. -/
theorem answer_of_listed (parsed : Json.parseTyped system.depth source = .ok (.obj members))
    (accepted : severities (members.get? "severities") = .ok selection)
    (listed : members.get? "files" = some (.arr (first :: rest))) :
    answer system source =
      (scanEntries system.files selection system.streams (first :: rest)).map
        fun (results, left) => (.batch results, left) := by
  rw [answer, parsed]
  simp only [answerMembers, accepted, listed]

/-- A manifest that lists no files is answered with the report on its code, if it has a name for it. -/
theorem answer_of_held {code : String}
    (parsed : Json.parseTyped system.depth source = .ok (.obj members))
    (accepted : severities (members.get? "severities") = .ok selection)
    (unlisted : ∀ entry rest, members.get? "files" ≠ some (.arr (entry :: rest)))
    (held : codeOf (members.get? "code") = some code) :
    answer system source =
      (scanText code ((firstPresent [members.get? "filename"]).getD (.str "")) selection).map
        fun report => (.single report, system.streams) := by
  rw [answer, parsed]
  simp only [answerMembers, accepted, held]

/-- Where files are listed, one of them gets no result. -/
theorem stops_of_listed (parsed : Json.parseTyped system.depth source = .ok (.obj members))
    (accepted : severities (members.get? "severities") = .ok selection)
    (listed : members.get? "files" = some (.arr (first :: rest)))
    (stopped : answer system source = .error crash) : Stops system source := by
  rw [answer_of_listed parsed accepted listed] at stopped
  by_contra runs
  have each : ∀ index entry, (first :: rest)[index]? = some entry →
      Scannable system.files (system.streams.afterEntries ((first :: rest).take index)) entry := by
    intro index entry placed
    by_contra stuck
    exact runs (.entry parsed accepted listed placed stuck)
  obtain ⟨results, left, scanned⟩ := (exists_scanEntries_iff_scannable selection).mpr each
  rw [scanned] at stopped
  cases stopped

/-- Where no files are listed, there is code, and its name is no text. -/
theorem stops_of_unlisted (parsed : Json.parseTyped system.depth source = .ok (.obj members))
    (accepted : severities (members.get? "severities") = .ok selection)
    (unlisted : ∀ entry rest, members.get? "files" ≠ some (.arr (entry :: rest)))
    (stopped : answer system source = .error crash) : Stops system source := by
  cases held : codeOf (members.get? "code") with
  | none =>
      rw [answer, parsed] at stopped
      simp only [answerMembers, accepted, held] at stopped
      cases stopped
  | some code =>
      rw [answer_of_held parsed accepted unlisted held] at stopped
      cases named : firstPresent [members.get? "filename"] with
      | none =>
          rw [named] at stopped
          cases stopped
      | some name =>
          refine .name parsed accepted unlisted held named ?_
          rintro text rfl
          rw [named] at stopped
          cases stopped

/-- A manifest that is not answered has one of the faults that stop the work on it. -/
theorem stops_of_answer_eq_error (stopped : answer system source = .error crash) :
    Stops system source := by
  cases parsed : Json.parseTyped system.depth source with
  | error error =>
      rw [answer, parsed] at stopped
      cases error with
      | malformed problem place => cases stopped
      | numberTooLong digits => exact .numberTooLong parsed
      | tooDeep inArray => exact .tooDeep parsed
  | ok value =>
      cases value with
      | obj members =>
          cases accepted : severities (Json.Members.get? members "severities") with
          | error refused =>
              rw [answer, parsed] at stopped
              simp only [answerMembers, accepted] at stopped
              cases stopped
          | ok selection =>
              by_cases listed : ∃ entry rest,
                  Json.Members.get? members "files" = some (.arr (entry :: rest))
              · obtain ⟨first, rest, listed⟩ := listed
                exact stops_of_listed parsed accepted listed stopped
              · refine stops_of_unlisted parsed accepted (fun entry rest same => ?_) stopped
                exact listed ⟨entry, rest, same⟩
      | _ =>
          rw [answer, parsed] at stopped
          cases stopped

/-- A fault that stops the work on a manifest keeps it from being answered. -/
theorem Stops.exists_crash (stops : Stops system source) :
    ∃ crash, answer system source = .error crash := by
  cases stops with
  | numberTooLong beyond =>
      rw [answer, beyond]
      exact ⟨_, rfl⟩
  | tooDeep beyond =>
      rw [answer, beyond]
      exact ⟨_, rfl⟩
  | @entry members selection entries index entry parsed accepted listed placed stuck =>
      cases entries with
      | nil => cases placed
      | cons first rest =>
          rw [answer_of_listed parsed accepted listed]
          cases scanned : scanEntries system.files selection system.streams (first :: rest) with
          | error crash => exact ⟨crash, rfl⟩
          | ok run =>
              have each := (exists_scanEntries_iff_scannable selection).mp ⟨run.1, run.2, scanned⟩
              exact (stuck (each index entry placed)).elim
  | @name members selection code name parsed accepted unlisted held named notText =>
      rw [answer_of_held parsed accepted unlisted held, named, Option.getD_some]
      cases made : scanText code name selection with
      | error crash => exact ⟨crash, rfl⟩
      | ok report =>
          obtain ⟨text, same, -⟩ := scanText_eq_ok_iff.mp made
          exact (notText text same).elim

theorem answered_iff : (∃ result left, answer system source = .ok (result, left)) ↔
    ¬ Stops system source := by
  constructor
  · rintro ⟨result, left, answered⟩ stops
    obtain ⟨crash, stopped⟩ := stops.exists_crash
    cases answered.symm.trans stopped
  · intro runs
    cases outcome : answer system source with
    | ok found => exact ⟨found.1, found.2, rfl⟩
    | error crash => exact (runs (stops_of_answer_eq_error outcome)).elim

/-- An answer that has scanned no file finds the streams as they were. -/
theorem streams_of_unlisted {result : Answer} {left : OpenStreams}
    (parsed : Json.parseTyped system.depth source = .ok (.obj members))
    (accepted : severities (members.get? "severities") = .ok selection)
    (unlisted : ∀ entry rest, members.get? "files" ≠ some (.arr (entry :: rest)))
    (answered : answer system source = .ok (result, left)) : left = system.streams := by
  cases held : codeOf (members.get? "code") with
  | none =>
      rw [answer, parsed] at answered
      simp only [answerMembers, accepted, held] at answered
      cases answered
      rfl
  | some code =>
      rw [answer_of_held parsed accepted unlisted held, map_eq_ok_iff] at answered
      obtain ⟨_, -, same⟩ := answered
      cases same
      rfl

/-- **Standard output is closed by the entries that name it.** -/
theorem isOpen_of_answer {result : Answer} {left : OpenStreams}
    (answered : answer system source = .ok (result, left))
    (busy : ¬ system.streams.Idle standardOutput) :
    left.isOpen standardOutput = true ↔ ¬ ClosesOutput system source := by
  have before : system.streams.isOpen standardOutput = true :=
    Option.isSome_iff_ne_none.mpr fun closed => busy (.inl closed)
  have unchanged (same : left = system.streams) (kept : ¬ ClosesOutput system source) :
      left.isOpen standardOutput = true ↔ ¬ ClosesOutput system source :=
    iff_of_true (same ▸ before) kept
  cases parsed : Json.parseTyped system.depth source with
  | error error =>
      refine unchanged ?_ fun ⟨parsed', _, _, _, _⟩ => nomatch parsed.symm.trans parsed'
      rw [answer, parsed] at answered
      cases error <;> cases answered
      rfl
  | ok value =>
      cases value with
      | obj members =>
          cases accepted : severities (Json.Members.get? members "severities") with
          | error refused =>
              refine unchanged ?_ ?_
              · rw [answer, parsed] at answered
                simp only [answerMembers, accepted] at answered
                cases answered
                rfl
              · rintro ⟨parsed', accepted', -, -, -⟩
                cases parsed.symm.trans parsed'
                cases accepted.symm.trans accepted'
          | ok selection =>
              by_cases listed : ∃ entry rest,
                  Json.Members.get? members "files" = some (.arr (entry :: rest))
              · obtain ⟨first, rest, listed⟩ := listed
                rw [answer_of_listed parsed accepted listed, map_eq_ok_iff] at answered
                obtain ⟨⟨results, after⟩, scanned, same⟩ := answered
                cases same
                rw [(scanEntries_eq_ok_iff.mp scanned).2, OpenStreams.isOpen_afterEntries_iff busy]
                constructor
                · rintro others ⟨parsed', -, listed', member, named⟩
                  cases parsed.symm.trans parsed'
                  cases listed.symm.trans listed'
                  exact others _ member named
                · exact fun kept entry member named =>
                    kept (.entry parsed accepted listed member named)
              · have unlisted : ∀ entry rest,
                    Json.Members.get? members "files" ≠ some (.arr (entry :: rest)) :=
                  fun entry rest same => listed ⟨entry, rest, same⟩
                refine unchanged (streams_of_unlisted parsed accepted unlisted answered) ?_
                rintro ⟨parsed', -, listed', member, -⟩
                cases parsed.symm.trans parsed'
                obtain ⟨first, rest, rfl⟩ := List.exists_cons_of_ne_nil (List.ne_nil_of_mem member)
                exact unlisted first rest listed'
      | _ =>
          refine unchanged ?_ fun ⟨parsed', _, _, _, _⟩ => nomatch parsed.symm.trans parsed'
          rw [answer, parsed] at answered
          cases answered
          rfl

theorem run_eq_ok_iff {scanId : Nat → String} {output : Option Output} :
    run system scanId source = .ok output ↔
      ∃ result left, answer system source = .ok (result, left) ∧
        result.output left scanId = output := by
  rw [run, map_eq_ok_iff, Prod.exists]

end Answers

/-- An answer is an object that says what went wrong just where the exit status does. -/
theorem toJson_error_iff (result : Answer) (scanId : Nat → String) :
    ∃ members, result.toJson scanId = .obj members ∧
      (result.exitStatus = 0 ∧ Json.Members.get? members "error" = none ∨
        result.exitStatus = 1 ∧
          ∃ message, Json.Members.get? members "error" = some (.str message)) := by
  cases result with
  | batch results => exact ⟨_, rfl, .inl ⟨rfl, rfl⟩⟩
  | single report => exact ⟨_, rfl, .inl ⟨rfl, rfl⟩⟩
  | _ => exact ⟨_, rfl, .inr ⟨rfl, _, rfl⟩⟩

/-- A report has no numbers but whole ones. -/
theorem isFinite_report (report : Report) (scanId : String) : (report.toJson scanId).isFinite = true := by
  have findings : Json.allPass { float := Decimal.Binary64.isFinite }
      (report.findings.map Finding.toJson) = true := by
    rw [Json.allPass_iff, List.forall_mem_map]
    exact fun finding _ => rfl
  simp only [Report.toJson, Summary.toJson, Summary.toMembers, Json.isFinite, Json.passes,
    Json.membersPass, findings, Bool.and_self]

theorem isFinite_result {result : FileResult} {scanId : String} :
    (result.toJson scanId).isFinite = true ↔
      ∀ name message, result = .failed name message → name.isFinite = true := by
  cases result with
  | scanned report =>
      refine iff_of_true (isFinite_report report scanId) ?_
      rintro _ _ ⟨⟩
  | failed name message => simp [FileResult.toJson, Json.isFinite, Json.passes, Json.membersPass]

/-- **When an answer is standard JSON.** Its numbers are all finite unless a record of what went wrong
shows a name with another one in it. -/
theorem isFinite_toJson_iff {result : Answer} {scanId : Nat → String} :
    (result.toJson scanId).isFinite = true ↔ ∀ results, result = .batch results →
      ∀ name message, .failed name message ∈ results → name.isFinite = true := by
  cases result with
  | batch results =>
      have listed : (Json.arr (numberedJson scanId results)).isFinite = true ↔
          ∀ result ∈ results, ∀ name message, result = .failed name message → name.isFinite = true := by
        rw [Json.isFinite, Json.passes, Json.allPass_iff, numberedJson, List.forall_mem_map]
        conv_rhs => rw [← List.zipIdx_map_fst 0 results, List.forall_mem_map]
        exact forall₂_congr fun numbered _ => isFinite_result
      have same : ((Answer.batch results).toJson scanId).isFinite =
          (Json.arr (numberedJson scanId results)).isFinite := by
        simp [Answer.toJson, Aggregate.toJson, Summary.toMembers, Json.isFinite, Json.passes,
          Json.membersPass]
      rw [same, listed]
      constructor
      · rintro each _ ⟨⟩ name message member
        exact each _ member name message rfl
      · rintro each _ member name message rfl
        exact each results rfl name message member
  | single report =>
      refine iff_of_true (isFinite_report report _) ?_
      rintro _ ⟨⟩
  | _ =>
      refine iff_of_true rfl ?_
      rintro _ ⟨⟩

/-- **Which manifests are answered.** A run gives an answer exactly where nothing stops the work on the
manifest: no limit of reading, no entry that gets no result in its turn, no name of code that is no text.
The answer is printed unless an entry names standard output. What is printed is one line with an object,
and either the exit status is 0 and there is no error in the object, or the exit status is 1 and the
object holds the text of one; it is standard JSON unless a record of what went wrong shows a name with a
number in it that is not finite. Where files are listed, all of them get the results of their entries
exactly if each entry gets one in its turn. -/
theorem answered_iff_not_stops (system : System) (scanId : Nat → String) (source : Json.Source) :
    ((∃ output, run system scanId source = .ok output) ↔ ¬ Stops system source) ∧
    (¬ system.streams.Idle standardOutput →
      ((∃ output, run system scanId source = .ok (some output)) ↔
        ¬ Stops system source ∧ ¬ ClosesOutput system source)) ∧
    (∀ output, run system scanId source = .ok (some output) →
      ∃ result left members, answer system source = .ok (result, left) ∧
        result.toJson scanId = .obj members ∧
        output = ⟨Json.render .spaced (.obj members), result.exitStatus⟩ ∧
        (output.status = 0 ∧ Json.Members.get? members "error" = none ∨
          output.status = 1 ∧ ∃ message, Json.Members.get? members "error" = some (.str message)) ∧
        ((Json.obj members).isFinite = true ↔ ∀ results, result = .batch results →
          ∀ name message, .failed name message ∈ results → name.isFinite = true)) ∧
    ∀ (members : Json.Members) (selection : Severity.Selection) (entries : List Json),
      Json.parseTyped system.depth source = .ok (.obj members) →
      severities (members.get? "severities") = .ok selection →
      members.get? "files" = some (.arr entries) → entries ≠ [] →
      ((∃ results left, answer system source = .ok (.batch results, left) ∧
          resultsInTurn system.files selection system.streams entries = results.map .ok) ↔
        ∀ index entry, entries[index]? = some entry →
          Scannable system.files (system.streams.afterEntries (entries.take index)) entry) := by
  refine ⟨?_, fun busy => ?_, fun output ran => ?_, ?_⟩
  · rw [← answered_iff]
    constructor
    · rintro ⟨output, ran⟩
      obtain ⟨result, left, answered, -⟩ := run_eq_ok_iff.mp ran
      exact ⟨result, left, answered⟩
    · rintro ⟨result, left, answered⟩
      exact ⟨_, run_eq_ok_iff.mpr ⟨result, left, answered, rfl⟩⟩
  · rw [← answered_iff]
    constructor
    · rintro ⟨output, ran⟩
      obtain ⟨result, left, answered, printed⟩ := run_eq_ok_iff.mp ran
      refine ⟨⟨result, left, answered⟩, (isOpen_of_answer answered busy).mp ?_⟩
      by_contra closed
      rw [Answer.output, if_neg closed] at printed
      cases printed
    · rintro ⟨⟨result, left, answered⟩, kept⟩
      have printed : result.output left scanId =
          some ⟨Json.render .spaced (result.toJson scanId), result.exitStatus⟩ :=
        if_pos ((isOpen_of_answer answered busy).mpr kept)
      exact ⟨_, run_eq_ok_iff.mpr ⟨result, left, answered, printed⟩⟩
  · obtain ⟨result, left, answered, printed⟩ := run_eq_ok_iff.mp ran
    obtain ⟨members, written, agrees⟩ := toJson_error_iff result scanId
    rw [Answer.output] at printed
    split at printed
    next =>
      cases printed
      refine ⟨result, left, members, answered, written, by rw [written], agrees, ?_⟩
      rw [← written]
      exact isFinite_toJson_iff
    next => cases printed
  · intro members selection entries parsed accepted listed present
    obtain ⟨first, rest, rfl⟩ := List.exists_cons_of_ne_nil present
    rw [← exists_scanEntries_iff_scannable selection, answer_of_listed parsed accepted listed]
    constructor
    · rintro ⟨results, left, -, each⟩
      exact ⟨results, _, scanEntries_eq_ok_iff.mpr ⟨each, rfl⟩⟩
    · rintro ⟨results, left, scanned⟩
      refine ⟨results, left, ?_, (scanEntries_eq_ok_iff.mp scanned).1⟩
      rw [scanned]
      rfl

/-- A file whose path has a null character in it, beside one that can be read: nothing is answered, though
the second one alone gets a result. A manifest that names standard output is answered and prints nothing. -/
theorem not_answered_null_in_path :
    let files : Reader := fun place =>
      if place = Text.Utf8.encode "b.js".toList then .ok (Text.Utf8.encode "eval(x)".toList)
      else .error .notFound
    let system : System := ⟨files, [⟨[standardOutput], .bytes []⟩], 993⟩
    let scanId : Nat → String := fun _ => ""
    let broken : Json := .obj [("path", .str "a\x00.js")]
    let sound : Json := .obj [("path", .str "b.js")]
    let manifest :=
      "\x7b\"files\": [\x7b\"path\": \"a\\u0000.js\"\x7d, \x7b\"path\": \"b.js\"\x7d]\x7d".toList
    let silent := "\x7b\"files\": [\x7b\"path\": true, \"filename\": \"b.js\"\x7d]\x7d".toList
    Json.parseTyped system.depth manifest = .ok (.obj [("files", .arr [broken, sound])]) ∧
      ¬ Scannable files system.streams broken ∧
      (∃ result, resultOf files none system.streams sound = .ok result) ∧
      Stops system manifest ∧ (¬ ∃ output, run system scanId manifest = .ok output) ∧
      (∃ output, run system scanId silent = .ok output) ∧
      ¬ ∃ output, run system scanId silent = .ok (some output) := by
  intro files system scanId broken sound manifest silent
  have parsed : Json.parseTyped system.depth manifest = .ok (.obj [("files", .arr [broken, sound])]) := by
    have written : manifest = Json.write .spaced 0 (.obj [("files", .arr [broken, sound])]) := by
      decide +kernel
    rw [written]
    exact Json.parseTyped_write Json.Layout.isBlank_spaced (by decide +kernel)
  have stuck : ¬ Scannable files system.streams broken := by
    have located : pathOf [("path", .str "a\x00.js")] = some (.str "a\x00.js") := rfl
    rw [scannable_untitled_iff located rfl]
    rintro ⟨-, ⟨plain⟩⟩
    exact (plain 0 (by decide)).notNull rfl
  have found : Scannable files system.streams sound :=
    .untitled rfl rfl (.text (by decide))
  have first : [broken, sound][0]? = some broken := rfl
  have stops : Stops system manifest := .entry parsed rfl rfl first stuck
  have quiet : Json.parseTyped system.depth silent =
      .ok (.obj [("files", .arr [.obj [("path", .bool true), ("filename", .str "b.js")]])]) := by
    have written : silent = Json.write .spaced 0
        (.obj [("files", .arr [.obj [("path", .bool true), ("filename", .str "b.js")]])]) := by
      decide +kernel
    rw [written]
    exact Json.parseTyped_write Json.Layout.isBlank_spaced (by decide +kernel)
  have closes : ClosesOutput system silent := .entry quiet rfl rfl List.mem_cons_self rfl
  obtain ⟨answered, -⟩ := answered_iff_not_stops system scanId manifest
  obtain ⟨-, prints, -, each⟩ := answered_iff_not_stops system scanId silent
  obtain ⟨results, left, whole, -⟩ := (each _ none _ quiet rfl rfl (List.cons_ne_nil _ _)).mpr <| by
    intro index entry placed
    cases index with
    | zero =>
        cases placed
        exact .titled rfl rfl (.word true) fun _ => ⟨_, rfl⟩
    | succ index => cases placed
  have busy : ¬ system.streams.Idle standardOutput := by
    rintro (closed | directory)
    · cases closed
    · cases directory
  exact ⟨parsed, stuck, (exists_resultOf_iff none).mpr found, stops, fun ran => answered.mp ran stops,
    ⟨_, run_eq_ok_iff.mpr ⟨_, left, whole, rfl⟩⟩, fun ran => ((prints busy).mp ran).2 closes⟩

end SourceAudit.Manifest
