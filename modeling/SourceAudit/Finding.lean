import SourceAudit.Decimal.Digits
import SourceAudit.Json.Basic
import SourceAudit.Severity

/-!
# Findings

A finding is one place that a rule reports, with the texts of the rule.
-/

namespace SourceAudit

/-- A line of a text, as the number of lines before it. So there is no line number zero, and the
search for a line gives the position that it finds. -/
structure LineNumber where
  before : Nat
  deriving DecidableEq

namespace LineNumber

/-- The first line. -/
def first : LineNumber := ⟨0⟩

/-- The number by which reports name a line. Lines are numbered from one. -/
def number (line : LineNumber) : Nat := line.before + 1

/-- The line with a given number, which must be at least one. -/
def ofNumber? : Int → Option LineNumber
  | .ofNat (before + 1) => some ⟨before⟩
  | _ => none

@[simp]
theorem ofNumber?_number (line : LineNumber) : ofNumber? line.number = some line := rfl

/-- The line a number of lines further down: where a finding goes when so many lines are put in
front of its text. -/
def shift (line : LineNumber) (count : Nat) : LineNumber := ⟨count + line.before⟩

end LineNumber

/-- One place that a rule reports. The texts of a finding that comes from outside may be loose; those of
the catalog are strings. -/
structure Finding where
  severity : Severity
  message : LooseText
  line : LineNumber
  rule : LooseText
  improvement : LooseText
  deriving DecidableEq

namespace Finding

/-- Whether the line number of a finding is short enough to be written in decimal. A scan would need
a text of that many lines to report another one; the findings of a request may have any number. -/
def isWritable (finding : Finding) : Bool :=
  Decimal.isWritable finding.line.number

/-- A finding as a JSON object. The members come in the order in which every response, document and
answer shows them. -/
def toJson (finding : Finding) : Json :=
  .obj [("severity", .str finding.severity.name), ("message", .str finding.message),
    ("line", .int finding.line.number), ("rule", .str finding.rule),
    ("improvement", .str finding.improvement)]

end Finding

end SourceAudit
