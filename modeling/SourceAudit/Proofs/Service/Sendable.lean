import SourceAudit.Proofs.History.Document
import SourceAudit.Proofs.Report
import SourceAudit.Service.Basic

/-!
# What can be sent

A response is a document whose characters are written as they are, so it cannot be sent where one of its
texts holds a lone surrogate, nor where a number has too many digits. The texts of the catalog are Unicode
text. So whether the report of a scan can be sent is told by the name of the file and by its numbers
(`Report.isSendable_toJson_of`), and the same holds of the entry that records it.
-/

namespace SourceAudit

theorem Finding.isSendable_toJson (finding : Finding) :
    finding.toJson.isSendable = (finding.isUnicode && finding.isWritable) := by
  simp only [Finding.toJson, Json.isSendable, Json.passes, Json.membersPass, Finding.isUnicode,
    Finding.isWritable, LooseText.isUnicode_unicode, Int.natAbs_natCast, Bool.true_and, Bool.and_true]
  ac_rfl

/-- Findings can be sent if each of them can. -/
theorem allPass_toJson (findings : List Finding) :
    Json.allPass
      { text := LooseText.isUnicode
        int := fun value => Decimal.isWritable value.natAbs
        float := Decimal.Binary64.isFinite } (findings.map Finding.toJson) =
      (findings.all Finding.isUnicode && findings.all Finding.isWritable) := by
  rw [Bool.eq_iff_iff, Json.allPass_iff, List.forall_mem_map, Bool.and_eq_true, List.all_eq_true,
    List.all_eq_true, ← forall₂_and]
  refine forall₂_congr fun finding _ => ?_
  rw [← Bool.and_eq_true, ← finding.isSendable_toJson]
  rfl

namespace HistoryEntry

theorem isWritable_new (stamp : Stamp) (fileName : LooseText) (findings : List Finding) :
    (new stamp fileName findings).isWritable = findings.all Finding.isWritable := rfl

theorem isUnicode_new (stamp : Stamp) (fileName : LooseText) (findings : List Finding) :
    (new stamp fileName findings).isUnicode =
      (fileName.isUnicode && findings.all Finding.isUnicode) := rfl

/-- An entry can be sent if its texts are Unicode text and its line numbers can be written. -/
theorem isSendable_toJson (entry : HistoryEntry) :
    entry.toJson.isSendable = (entry.isUnicode && entry.isWritable) := by
  simp only [HistoryEntry.toJson, Json.isSendable, Json.passes, Json.membersPass, allPass_toJson,
    HistoryEntry.isUnicode, HistoryEntry.isWritable, LooseText.isUnicode_unicode, Bool.true_and,
    Bool.and_true]
  ac_rfl

end HistoryEntry

/-- Every finding of a scan has the texts of a rule, which are Unicode text. -/
theorem isUnicode_of_mem_scan {content extension : String} {finding : Finding}
    (member : finding ∈ scan content extension) : finding.isUnicode = true := by
  obtain ⟨rule, -, found⟩ := List.mem_flatMap.mp member
  obtain ⟨line, -, rfl⟩ := List.mem_map.mp found
  rfl

theorem LooseText.isUnicode_mapParts (change : String → String) (text : LooseText) :
    (text.mapParts change).isUnicode = text.isUnicode := by
  rw [isUnicode, mapParts, List.isEmpty_map, isUnicode]

theorem isUnicode_extensionOf {fileName : LooseText} (whole : fileName.isUnicode = true) :
    (extensionOf fileName).isUnicode = true := by
  obtain ⟨name, rfl⟩ := LooseText.isUnicode_iff.mp whole
  rw [extensionOf]
  split
  next => rw [LooseText.lower, LooseText.isUnicode_mapParts, LooseText.afterLast_unicode]; rfl
  next => rfl

namespace Report

/-- A report that a response can hold: its file name is Unicode text, and its line numbers and its counts
are short enough to be written. -/
structure IsSendable (report : Report) : Prop where
  name : report.fileName.isUnicode = true
  lines : report.findings.all Finding.isWritable = true
  total : Decimal.isWritable report.summary.total = true

variable {content : String} {fileName : LooseText} {selection : Severity.Selection}

/-- The findings of a report are Unicode text, whatever is scanned. -/
theorem isUnicode_findings_of :
    (Report.of content fileName selection).findings.all Finding.isUnicode = true := by
  rw [List.all_eq_true, findings_of, keepSelected]
  intro finding member
  have found : finding ∈ scan content (extensionOf fileName).shown := List.mem_of_mem_filter member
  exact isUnicode_of_mem_scan found

/-- No count of a summary is greater than the sum. -/
theorem isWritable_counts (findings : List Finding) :
    (Decimal.isWritable (Summary.of findings).high && Decimal.isWritable (Summary.of findings).medium &&
      Decimal.isWritable (Summary.of findings).low && Decimal.isWritable (Summary.of findings).total) =
        Decimal.isWritable (Summary.of findings).total := by
  have sum := (Summary.counts_of findings).sum
  rw [Bool.eq_iff_iff]
  simp only [Bool.and_eq_true, Decimal.isWritable_iff]
  omega

/-- **When the report of a scan can be sent.** -/
theorem isSendable_toJson_of (content : String) (fileName : LooseText)
    (selection : Severity.Selection) (scanId : String) :
    ((Report.of content fileName selection).toJson scanId).isSendable = true ↔
      (Report.of content fileName selection).IsSendable := by
  have counts := isWritable_counts (Report.of content fileName selection).findings
  rw [← summary_of] at counts
  have written : ((Report.of content fileName selection).toJson scanId).isSendable =
      (fileName.isUnicode && (extensionOf fileName).isUnicode &&
        (Report.of content fileName selection).findings.all Finding.isWritable &&
        Decimal.isWritable (Report.of content fileName selection).summary.total) := by
    rw [← counts]
    simp only [Report.toJson, Summary.toJson, Summary.toMembers, Json.isSendable, Json.passes,
      Json.membersPass, allPass_toJson, isUnicode_findings_of, LooseText.isUnicode_unicode,
      Int.natAbs_natCast, extension_of, fileName_of, Bool.true_and, Bool.and_true, Bool.and_assoc]
  rw [written]
  simp only [Bool.and_eq_true]
  constructor
  · rintro ⟨⟨⟨name, -⟩, lines⟩, total⟩
    exact ⟨name, lines, total⟩
  · rintro ⟨name, lines, total⟩
    exact ⟨⟨⟨name, isUnicode_extensionOf name⟩, lines⟩, total⟩

end Report

namespace Service.ScanRequest

@[simp]
theorem fileName_report (scan : ScanRequest) : scan.report.fileName = scan.fileName :=
  Report.fileName_of ..

theorem report_isSendable_iff (scan : ScanRequest) (scanId : String) :
    (scan.report.toJson scanId).isSendable = true ↔ scan.report.IsSendable :=
  Report.isSendable_toJson_of ..

end Service.ScanRequest

end SourceAudit
