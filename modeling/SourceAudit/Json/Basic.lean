import SourceAudit.Decimal.Binary64
import SourceAudit.Text.Loose

/-!
# JSON values

A document keeps the order of its members and tells whole numbers from floating-point ones. The escapes
of a string, and those of a member name, can leave a surrogate without its partner, so both are loose
texts.
-/

namespace SourceAudit

open Decimal (Binary64)

/-- A JSON value. Whole numbers are of any size, and floating-point ones may be infinite or
not-a-number, as in the documents that are read. -/
inductive Json
  | null
  | bool (value : Bool)
  | int (value : Int)
  | float (value : Binary64)
  | str (value : LooseText)
  | arr (items : List Json)
  | obj (members : List (LooseText × Json))
  deriving Inhabited

namespace Json

/-- The members of an object, in the order of the document. A reader keeps one member of each name,
with the last value given. -/
abbrev Members := List (LooseText × Json)

/-- Set a member: a name that is present keeps its place and takes the new value. -/
def Members.put (members : Members) (name : LooseText) (value : Json) : Members :=
  if members.any (·.1 == name) then
    members.map fun member => if member.1 == name then (name, value) else member
  else members ++ [(name, value)]

/-- The value of a member. Names are compared by their code points, so that two with different
surrogates are different. -/
def Members.get? (members : Members) (name : LooseText) : Option Json :=
  (members.find? (·.1 == name)).map (·.2)

/-- The value of a member, where the value is an object that has it. Values of other kinds have no
members. -/
def get? (value : Json) (name : LooseText) : Option Json :=
  match value with
  | .obj members => Members.get? members name
  | _ => none

/-- Whether a value counts as present: null, false, zero and everything empty do not. -/
def isTruthy : Json → Bool
  | .null => false
  | .bool value => value
  | .int value => value != 0
  | .float value => !value.isZero
  | .str value => value != ""
  | .arr items => !items.isEmpty
  | .obj members => !members.isEmpty

/-- The name of a value's kind in messages. They name the kinds that the values have once they are
read, not those of the document. -/
def kindName : Json → String
  | .null => "NoneType"
  | .bool _ => "bool"
  | .int _ => "int"
  | .float _ => "float"
  | .str _ => "str"
  | .arr _ => "list"
  | .obj _ => "dict"

/-- An optional text, or null. -/
def ofText? : Option LooseText → Json
  | some text => .str text
  | none => .null

end Json

end SourceAudit
