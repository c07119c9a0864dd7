import SourceAudit.Json.Display
import SourceAudit.Severity

/-!
# Selections of severities

A selection lists the severities that a report keeps; without one it keeps all of them. A selection
is read from a JSON value whose elements name severities: the items of an array, the names of an
object's members, or the characters of a string.
-/

namespace SourceAudit.Severity

/-- The severities to keep, or all of them. An empty list keeps no finding at all, which is not the
same as having no selection. The order of the list and repetitions in it do not matter. -/
abbrev Selection := Option (List Severity)

/-- Whether a selection keeps a severity. -/
def Selection.keeps (selection : Selection) (severity : Severity) : Bool :=
  match selection with
  | none => true
  | some severities => severities.contains severity

/-- Why a value selects no severities: one of its elements is the name of none, or it has no
elements to look at. -/
inductive SelectionError
  | unknown (element : Json)
  | notIterable (value : Json)

/-- The wording of a selection error. -/
def SelectionError.message : SelectionError → String
  | .unknown element => element.quoted ++ " is not a valid Severity"
  | .notIterable value => "'" ++ value.kindName ++ "' object is not iterable"

/-- The severity that a value names. Only a string can name one, and a string with a lone surrogate
in it is never the name of any. -/
def ofJson (value : Json) : Except SelectionError Severity :=
  match value with
  | .str (.unicode name) => match ofName? name with
    | some severity => .ok severity
    | none => .error (.unknown value)
  | _ => .error (.unknown value)

/-- The severities that values name, in their order, or the first value that names none. Nothing
after that value is looked at. -/
def listOfJson (values : List Json) : Except SelectionError (List Severity) :=
  values.mapM ofJson

/-- The elements of a value that has any: the items of an array, the names of the members of an
object, or the characters of a string, one by one. -/
def elements : Json → Except SelectionError (List Json)
  | .arr items => .ok items
  | .obj members => .ok (members.map fun member => .str member.1)
  | .str text => .ok (text.points.map fun point => .str (.ofPoints [point]))
  | value => .error (.notIterable value)

/-- The selection that a value writes; null keeps every severity. -/
def Selection.ofJson : Json → Except SelectionError Selection
  | .null => .ok none
  | value => do return some (← listOfJson (← elements value))

end SourceAudit.Severity
