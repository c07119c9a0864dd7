import SourceAudit.Finding
import SourceAudit.Validation.Field

/-!
# Reading findings

A finding is read from an object with its five fields; other members are ignored.
-/

namespace SourceAudit

open Validation

/-- A severity is named exactly. A name that is no Unicode text cannot even be compared, and is
refused by an issue of its own. -/
def Severity.check : Json → Checked Severity
  | .str (.unicode name) => match Severity.ofName? name with
    | some severity => .valid severity
    | none => .fail .enumValue
  | .str _ => .fail .stringUnicode
  | _ => .fail .enumValue

/-- A line number is an integer of at least one. Any form of an integer is accepted, a text or a
whole floating-point number among them. -/
def LineNumber.check (value : Json) : Checked LineNumber :=
  (integer value).andThen fun number =>
    match LineNumber.ofNumber? number with
    | some line => .valid line
    | none => .fail .greaterThanEqual

namespace Finding

/-- The finding with given fields. The issues of all five are told together, in the order of the
fields. -/
def ofMembers (members : Json.Members) : Checked Finding :=
  ((((Checked.map Finding.mk (required members "severity" Severity.check)).ap
    (required members "message" text)).ap
    (required members "line" LineNumber.check)).ap
    (required members "rule" text)).ap
    (required members "improvement" text)

/-- The finding that a value writes. What is wrong with a value that is no object is told
differently for the body of a request. -/
def check (notObject : Kind) : Json → Checked Finding :=
  record notObject ofMembers

/-- The finding with given fields, or everything that is wrong with them. -/
def ofFields (fields : Json) : Except Failure Finding :=
  (check .modelType fields).toExcept "Finding"

end Finding

end SourceAudit
