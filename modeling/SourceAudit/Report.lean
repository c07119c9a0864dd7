import SourceAudit.Scan
import SourceAudit.Severity.Selection

/-!
# Reports

A report holds what a scan of one file found, restricted to a selection of severities, and counts it
by severity.
-/

namespace SourceAudit

/-- Numbers of findings by severity, and their sum. The sum is a count of its own, as it is shown
beside the others. -/
structure Summary where
  high : Nat
  medium : Nat
  low : Nat
  total : Nat
  deriving DecidableEq

namespace Summary

/-- The counts of no finding. -/
def empty : Summary := ⟨0, 0, 0, 0⟩

/-- Count one more finding. The sum is taken at the end. -/
def count (summary : Summary) (finding : Finding) : Summary :=
  match finding.severity with
  | .high => { summary with high := summary.high + 1 }
  | .medium => { summary with medium := summary.medium + 1 }
  | .low => { summary with low := summary.low + 1 }

/-- Count findings by severity. What is counted are the findings of a report, after the selection,
so that a summary never counts what is not shown. -/
def of (findings : List Finding) : Summary :=
  let counted := findings.foldl count empty
  { counted with total := counted.high + counted.medium + counted.low }

/-- The counts as members of a JSON object, the gravest severity first. The counts of a whole batch
add a member to them. -/
def toMembers (summary : Summary) : Json.Members :=
  [("high", .int summary.high), ("medium", .int summary.medium), ("low", .int summary.low),
    ("total", .int summary.total)]

/-- The counts as a JSON object. -/
def toJson (summary : Summary) : Json :=
  .obj summary.toMembers

/-- The sum of two summaries, count by count. -/
def add (first second : Summary) : Summary :=
  ⟨first.high + second.high, first.medium + second.medium, first.low + second.low,
    first.total + second.total⟩

end Summary

/-- The findings whose severity a selection keeps, in order. Nothing is sorted: the order of the
rules is that of the report. -/
def keepSelected (selection : Severity.Selection) (findings : List Finding) : List Finding :=
  findings.filter fun finding => selection.keeps finding.severity

/-- What a scan of one file found, under the name and the extension by which it was scanned. The
summary counts just the findings of the report. -/
structure Report where
  fileName : LooseText
  extension : LooseText
  findings : List Finding
  summary : Summary
  deriving DecidableEq

namespace Report

/-- Scan the text of a file by the profile of its name and keep the selected findings. The extension
is shown as the name has it; the choice of the profile takes blanks and dots off it. -/
def of (content : String) (fileName : LooseText) (selection : Severity.Selection) : Report :=
  let extension := extensionOf fileName
  let findings := keepSelected selection (scan content extension.shown)
  ⟨fileName, extension, findings, Summary.of findings⟩

/-- The report as a JSON object, under the identifier of the scan. Two scans of the same file differ
in nothing but the identifier. -/
def toJson (report : Report) (scanId : String) : Json :=
  .obj [("scan_id", .str scanId), ("filename", .str report.fileName),
    ("extension", .str report.extension), ("findings", .arr (report.findings.map Finding.toJson)),
    ("summary", report.summary.toJson)]

end Report

end SourceAudit
