import SourceAudit.Finding.Validation

/-!
# Findings read back

Reading a record that has been written gives the record: each field passes the check of the field it
is read into. Here are the laws of severities, line numbers and findings.
-/

namespace SourceAudit

open Validation

theorem Severity.check_name (severity : Severity) :
    Severity.check (.str severity.name) = .valid severity := by
  rw [Severity.check, Severity.ofName?_name]

theorem LineNumber.check_number (line : LineNumber) :
    LineNumber.check (.int line.number) = .valid line := by
  rw [LineNumber.check, Validation.integer, Checked.andThen, LineNumber.ofNumber?_number]

/-- **A finding is read back from its record.** -/
theorem Finding.check_toJson (notObject : Kind) (finding : Finding) :
    Finding.check notObject finding.toJson = .valid finding := by
  obtain ⟨severity, message, line, rule, improvement⟩ := finding
  have severityRead := Severity.check_name severity
  have lineRead := LineNumber.check_number line
  simp [Finding.check, Finding.toJson, record, Finding.ofMembers, required, Json.Members.get?,
    severityRead, lineRead, Validation.text, Checked.within, Checked.map, Checked.ap]

theorem Finding.ofFields_toJson (finding : Finding) :
    Finding.ofFields finding.toJson = .ok finding := by
  rw [Finding.ofFields, Finding.check_toJson]
  rfl

end SourceAudit
