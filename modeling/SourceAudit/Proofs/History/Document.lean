import SourceAudit.History.Document
import SourceAudit.Proofs.Finding.RoundTrip
import SourceAudit.Proofs.Json.RoundTrip
import SourceAudit.Proofs.Json.Strict
import SourceAudit.Proofs.Json.Writable
import SourceAudit.Proofs.Text.Utf8
import SourceAudit.Proofs.Timestamp.RoundTrip
import SourceAudit.Proofs.Validation.Valid

/-!
# History documents read back

The document of some entries is read as the entries, where their line numbers are short enough to be
written and their texts hold no lone surrogate (`HistoryDocument.read_write`). Entries that are read from
any document have such line numbers and texts (`HistoryDocument.isWritable_of_read`,
`HistoryDocument.isUnicode_of_read`), in whatever form the document gives them, so they can always be
written again and read back.
-/

namespace SourceAudit

open Validation

namespace Validation

/-- An integer that is read in any form is short enough to be written. -/
theorem isWritable_of_integer {value : Json} {number : Int} (written : value.Writable)
    (valid : integer value = .valid number) : Decimal.isWritable number.natAbs = true := by
  cases written with
  | int short =>
      cases valid
      exact short
  | bool value =>
      cases valid
      cases value with
      | false => decide
      | true => decide
  | float value =>
      unfold integer at valid
      simp only at valid
      split at valid
      · cases valid
      · cases valid
      · split at valid
        · cases valid
        · split at valid
          next small =>
            cases valid
            exact Decimal.isWritable_of_lt small
          next => cases valid
  | str value =>
      obtain ⟨head, tail⟩ := value
      cases tail with
      | cons piece rest => cases valid
      | nil =>
          simp only [integer] at valid
          split at valid
          next read =>
            cases valid
            exact Decimal.isWritable_of_readInt read
          · cases valid
          · cases valid
  | _ => cases valid

/-- A text that is valid is the one that the value holds. -/
theorem text_eq_valid_iff {value : Json} {held : LooseText} :
    Validation.text value = .valid held ↔ value = .str held := by
  cases value with
  | str value => rw [Validation.text, Checked.valid.injEq, Json.str.injEq]
  | _ =>
      constructor
      · intro valid
        cases valid
      · intro same
        cases same

end Validation

/-- Whether the texts of a finding hold no lone surrogate. A finding of the catalog has only such
texts. -/
def Finding.isUnicode (finding : Finding) : Bool :=
  finding.message.isUnicode && finding.rule.isUnicode && finding.improvement.isUnicode

/-- Whether the texts of an entry hold no lone surrogate, those of its findings among them. Only
then is the document with the entry read again. -/
def HistoryEntry.isUnicode (entry : HistoryEntry) : Bool :=
  entry.id.isUnicode && entry.fileName.isUnicode && entry.findings.all Finding.isUnicode

theorem LineNumber.isWritable_of_check {value : Json} {line : LineNumber} (written : value.Writable)
    (valid : LineNumber.check value = .valid line) : Decimal.isWritable line.number = true := by
  rw [LineNumber.check, Checked.andThen_eq_valid_iff] at valid
  obtain ⟨number, read, valid⟩ := valid
  have short := isWritable_of_integer written read
  unfold LineNumber.ofNumber? at valid
  split at valid
  next given same =>
    cases valid
    split at same
    next before =>
      cases same
      exact short
    next => cases same
  next => cases valid

theorem Finding.isWritable_of_check {value : Json} {finding : Finding} {notObject : Kind}
    (written : value.Writable) (valid : Finding.check notObject value = .valid finding) :
    finding.isWritable = true := by
  cases written with
  | obj each =>
      simp only [Finding.check, record, Finding.ofMembers, Checked.ap_eq_valid_iff,
        Checked.map_eq_valid_iff, required_eq_valid_iff] at valid
      obtain ⟨_, _, ⟨_, _, ⟨_, line, ⟨_, _, ⟨_, _, rfl⟩, _, rfl⟩, ⟨field, present, read⟩, rfl⟩, _, rfl⟩,
        _, rfl⟩ := valid
      exact LineNumber.isWritable_of_check (each _ (mem_of_get?_eq_some present)) read
  | _ => cases valid

/-- Findings that are read from short numbers have no other ones. -/
theorem Finding.areWritable_of_listOf {value : Json} {findings : List Finding} {notObject : Kind}
    (written : value.Writable) (valid : listOf (Finding.check notObject) value = .valid findings) :
    findings.all Finding.isWritable = true := by
  rw [List.all_eq_true]
  intro finding member
  obtain ⟨items, rfl, item, listed, read⟩ := exists_item_of_listOf valid member
  cases written with
  | arr each => exact Finding.isWritable_of_check (each item listed) read

theorem HistoryEntry.isWritable_of_check {value : Json} {entry : HistoryEntry}
    (written : value.Writable) (valid : HistoryEntry.check value = .valid entry) :
    entry.isWritable = true := by
  cases written with
  | obj each =>
      simp only [HistoryEntry.check, record, HistoryEntry.ofMembers, Checked.ap_eq_valid_iff,
        Checked.map_eq_valid_iff, required_eq_valid_iff, withDefault_eq_valid_iff] at valid
      obtain ⟨_, _, ⟨_, findings, ⟨_, _, ⟨_, _, rfl⟩, _, rfl⟩, given, rfl⟩, _, rfl⟩ := valid
      rcases given with ⟨field, present, read⟩ | ⟨-, rfl⟩
      · exact Finding.areWritable_of_listOf (each _ (mem_of_get?_eq_some present)) read
      · rfl
  | _ => cases valid

/-- A finding that is read from Unicode text holds nothing else. -/
theorem Finding.isUnicode_of_check {value : Json} {finding : Finding} {notObject : Kind}
    (whole : value.isUnicode = true) (valid : Finding.check notObject value = .valid finding) :
    finding.isUnicode = true := by
  cases value with
  | obj members =>
      simp only [Finding.check, record, Finding.ofMembers, Checked.ap_eq_valid_iff,
        Checked.map_eq_valid_iff, required_eq_valid_iff, text_eq_valid_iff] at valid
      obtain ⟨_, improvement, ⟨_, rule, ⟨_, line, ⟨_, message, ⟨severity, -, rfl⟩,
        ⟨_, shownMessage, rfl⟩, rfl⟩, -, rfl⟩, ⟨_, shownRule, rfl⟩, rfl⟩,
        ⟨_, shownImprovement, rfl⟩, rfl⟩ := valid
      have each {name held : LooseText} (shown : Json.Members.get? members name = some (.str held)) :
          held.isUnicode = true := Json.passes_of_get? whole shown
      simp only [Finding.isUnicode, each shownMessage, each shownRule, each shownImprovement,
        Bool.and_self]
  | _ => cases valid

/-- An entry that is read from Unicode text holds nothing else. -/
theorem HistoryEntry.isUnicode_of_check {value : Json} {entry : HistoryEntry}
    (whole : value.isUnicode = true) (valid : HistoryEntry.check value = .valid entry) :
    entry.isUnicode = true := by
  cases value with
  | obj members =>
      simp only [HistoryEntry.check, record, HistoryEntry.ofMembers, Checked.ap_eq_valid_iff,
        Checked.map_eq_valid_iff, required_eq_valid_iff, withDefault_eq_valid_iff,
        text_eq_valid_iff] at valid
      obtain ⟨_, createdAt, ⟨_, findings, ⟨_, fileName, ⟨id, ⟨_, shownId, rfl⟩, rfl⟩,
        ⟨_, shownName, rfl⟩, rfl⟩, given, rfl⟩, -, rfl⟩ := valid
      have each {name held : LooseText} (shown : Json.Members.get? members name = some (.str held)) :
          held.isUnicode = true := Json.passes_of_get? whole shown
      have findingsRead : findings.all Finding.isUnicode = true := by
        rw [List.all_eq_true]
        rcases given with ⟨field, present, read⟩ | ⟨-, rfl⟩
        · intro finding member
          obtain ⟨items, rfl, item, listed, valid⟩ := exists_item_of_listOf read member
          have items := Json.passes_of_get? whole present
          exact Finding.isUnicode_of_check (Json.allPass_iff.mp items item listed) valid
        · exact List.forall_mem_nil _
      simp only [HistoryEntry.isUnicode, each shownId, each shownName, findingsRead, Bool.and_self]
  | _ => cases valid

/-- An entry is read back from its record. -/
theorem HistoryEntry.check_toJson (entry : HistoryEntry) :
    HistoryEntry.check entry.toJson = .valid entry := by
  obtain ⟨id, fileName, findings, createdAt⟩ := entry
  have findingsRead : listOf (Finding.check .modelType) (.arr (findings.map Finding.toJson)) =
      .valid findings := by
    refine listOf_eq_valid_iff.mpr ⟨_, rfl, ?_⟩
    rw [List.forall₂_map_left_iff, List.forall₂_same]
    exact fun finding _ => Finding.check_toJson .modelType finding
  have timeRead : Timestamp.check (.str createdAt.text) = .valid createdAt := by
    rw [Timestamp.check, Timestamp.read?_text]
  simp [HistoryEntry.check, HistoryEntry.toJson, record, HistoryEntry.ofMembers, required,
    withDefault, Json.Members.get?, findingsRead, timeRead, Validation.text, Checked.within,
    Checked.map, Checked.ap]

/-- A finding is a plain value where its line number can be written and its texts are Unicode text. -/
theorem Finding.isPlain_toJson {finding : Finding}
    (short : finding.isWritable = true) (whole : finding.isUnicode = true)
    (depth : Nat) : finding.toJson.isPlain (depth + 1) = true := by
  rw [Finding.isWritable] at short
  simp only [Finding.isUnicode, Bool.and_eq_true] at whole
  simp [Finding.toJson, Json.isPlain, Json.membersArePlain, short, whole]

/-- An entry is a plain value where its findings are and its own texts are Unicode text. -/
theorem HistoryEntry.isPlain_toJson {entry : HistoryEntry} (writable : entry.isWritable = true)
    (whole : entry.isUnicode = true) (depth : Nat) : entry.toJson.isPlain (depth + 3) = true := by
  simp only [HistoryEntry.isUnicode, Bool.and_eq_true, List.all_eq_true] at whole
  have findings : Json.arePlain (depth + 1) (entry.findings.map Finding.toJson) = true := by
    rw [HistoryEntry.isWritable, List.all_eq_true] at writable
    rw [Json.arePlain_iff]
    intro item member
    obtain ⟨finding, listed, rfl⟩ := List.mem_map.mp member
    exact Finding.isPlain_toJson (writable finding listed) (whole.2 finding listed) depth
  simp [HistoryEntry.toJson, Json.isPlain, Json.membersArePlain, findings, whole]

theorem Finding.isUnicode_toJson (finding : Finding) : finding.toJson.isUnicode = finding.isUnicode := by
  simp [Finding.toJson, Json.isUnicode, Json.passes, Json.membersPass, Finding.isUnicode, Bool.and_assoc]

theorem HistoryEntry.isUnicode_toJson (entry : HistoryEntry) :
    entry.toJson.isUnicode = entry.isUnicode := by
  have findings : Json.allPass { text := LooseText.isUnicode } (entry.findings.map Finding.toJson) =
      entry.findings.all Finding.isUnicode := by
    rw [Bool.eq_iff_iff, Json.allPass_iff, List.all_eq_true, List.forall_mem_map]
    exact forall₂_congr fun finding _ => Bool.eq_iff_iff.mp finding.isUnicode_toJson
  simp [HistoryEntry.toJson, Json.isUnicode, Json.passes, Json.membersPass, HistoryEntry.isUnicode,
    findings, Bool.and_assoc]

namespace HistoryDocument

/-- **The document of some entries is read as the entries.** -/
theorem read_write {entries : List HistoryEntry}
    (writable : entries.all HistoryEntry.isWritable = true)
    (whole : entries.all HistoryEntry.isUnicode = true) : read (write entries) = .ok entries := by
  rw [List.all_eq_true] at writable whole
  have plain : (Json.arr (entries.map HistoryEntry.toJson)).isPlain maxDepth = true := by
    rw [Json.isPlain, Bool.and_eq_true, Json.arePlain_iff]
    refine ⟨rfl, ?_⟩
    intro item member
    obtain ⟨entry, listed, rfl⟩ := List.mem_map.mp member
    exact HistoryEntry.isPlain_toJson (writable entry listed) (whole entry listed) 196
  have unicode : (Json.arr (entries.map HistoryEntry.toJson)).isUnicode = true := by
    refine Json.allPass_iff.mpr ?_
    intro item member
    obtain ⟨entry, listed, rfl⟩ := List.mem_map.mp member
    exact entry.isUnicode_toJson.trans (whole entry listed)
  have decoded : value? (write entries) = some (.arr (entries.map HistoryEntry.toJson)) := by
    rw [value?, write, Text.Utf8.decode?_encode]
    simp only [Option.bind_eq_bind, Option.bind_some,
      Json.readDocument_write Json.Layout.isBlank_indented plain, unicode, if_true]
  have valid : listOf HistoryEntry.check (.arr (entries.map HistoryEntry.toJson)) = .valid entries := by
    refine listOf_eq_valid_iff.mpr ⟨_, rfl, ?_⟩
    rw [List.forall₂_map_left_iff, List.forall₂_same]
    exact fun entry _ => entry.check_toJson
  rw [read, decoded]
  simp only
  rw [valid]
  rfl

/-- What a document holds can be written, and it is Unicode text. -/
theorem writable_of_value? {bytes : List UInt8} {value : Json} (decoded : value? bytes = some value) :
    value.Writable ∧ value.isUnicode = true := by
  unfold value? at decoded
  obtain ⟨text, -, decoded⟩ := Option.bind_eq_some_iff.mp decoded
  split at decoded
  next read =>
    split at decoded
    next whole =>
      cases decoded
      exact ⟨Json.writable_of_readDocument read, whole⟩
    next => cases decoded
  next => cases decoded

variable {bytes : List UInt8} {entries : List HistoryEntry}

/-- An entry that is read is one of the items of what the document holds. -/
theorem exists_item_of_read (accepted : read bytes = .ok entries) {entry : HistoryEntry}
    (member : entry ∈ entries) :
    ∃ items, value? bytes = some (.arr items) ∧
      ∃ item ∈ items, HistoryEntry.check item = .valid entry := by
  rw [read, Checked.toExcept_eq_ok_iff] at accepted
  split at accepted
  next value decoded =>
    obtain ⟨items, rfl, found⟩ := exists_item_of_listOf accepted member
    exact ⟨items, decoded, found⟩
  next => cases accepted

/-- **Entries that are read can be written again.** -/
theorem isWritable_of_read (accepted : read bytes = .ok entries) :
    entries.all HistoryEntry.isWritable = true := by
  rw [List.all_eq_true]
  intro entry member
  obtain ⟨items, decoded, item, listed, valid⟩ := exists_item_of_read accepted member
  cases (writable_of_value? decoded).1 with
  | arr each => exact HistoryEntry.isWritable_of_check (each item listed) valid

/-- **Entries that are read hold no lone surrogate.** -/
theorem isUnicode_of_read (accepted : read bytes = .ok entries) :
    entries.all HistoryEntry.isUnicode = true := by
  rw [List.all_eq_true]
  intro entry member
  obtain ⟨items, decoded, item, listed, valid⟩ := exists_item_of_read accepted member
  have whole := Json.allPass_iff.mp (writable_of_value? decoded).2 item listed
  exact HistoryEntry.isUnicode_of_check whole valid

end HistoryDocument

end SourceAudit
