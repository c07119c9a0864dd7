/-!
# Severities

How grave a finding is. Severities have names, and a rank that puts the gravest first.
-/

namespace SourceAudit

/-- How grave a finding is. There are three grades; the rules of the catalog use all of them, and
reports count findings by grade. -/
inductive Severity
  | high
  | medium
  | low
  deriving DecidableEq

namespace Severity

/-- All severities, the gravest first. -/
def all : List Severity := [.high, .medium, .low]

/-- The name of a severity, as findings, summaries and manifests spell it in JSON. -/
def name : Severity → String
  | .high => "high"
  | .medium => "medium"
  | .low => "low"

/-- The severity with a given name. The spelling must be exact: readers that are to be lenient about
case change it before they ask. -/
def ofName? : String → Option Severity
  | "high" => some .high
  | "medium" => some .medium
  | "low" => some .low
  | _ => none

@[simp]
theorem ofName?_name (severity : Severity) : ofName? severity.name = some severity := by
  cases severity <;> rfl

/-- The position of a severity in the order that puts the gravest first. No two severities have the
same one, and each profile of the catalog lists its rules in this order. -/
def rank : Severity → Nat
  | .high => 0
  | .medium => 1
  | .low => 2

end Severity

end SourceAudit
