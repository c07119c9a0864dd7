import SourceAudit.Decimal.Numeral
import SourceAudit.Validation.Basic

/-!
# Checks of fields

How a field of a record is read from a JSON value. Numbers and flags may be written as text; text may
not be written as anything else.
-/

namespace SourceAudit.Validation

open Decimal (Binary64)

variable {α : Type}

/-- A field that must be present. Its absence is located at the field, like the issues with its
value. -/
def required (members : Json.Members) (name : String) (check : Json → Checked α) : Checked α :=
  match members.get? name with
  | some value => (check value).within (.field name)
  | none => .invalid [⟨[.field name], .missing⟩]

/-- A field that has a default. Only a missing field takes it; a null that is given is checked like
any other value. -/
def withDefault (members : Json.Members) (name : String) (default : α)
    (check : Json → Checked α) : Checked α :=
  match members.get? name with
  | some value => (check value).within (.field name)
  | none => .valid default

/-- A record, read from the members of an object; `notObject` is what is wrong with other values.
Members that the record does not have are ignored. -/
def record (notObject : Kind) (check : Json.Members → Checked α) : Json → Checked α
  | .obj members => check members
  | _ => .fail notObject

/-- A list, read from the items of an array. The issues of all items are told, each at its position. -/
def listOf (check : Json → Checked α) : Json → Checked (List α)
  | .arr items => .ofList (items.map check)
  | _ => .fail .listType

/-- A value or null. -/
def nullable (check : Json → Checked α) : Json → Checked (Option α)
  | .null => .valid none
  | value => (check value).map some

/-- A text. Nothing is asked of its code points, so that it may hold lone surrogates; only checks
that look into a text refuse these. -/
def text : Json → Checked LooseText
  | .str value => .valid value
  | _ => .fail .stringType

/-- The greatest size below which a floating-point number is taken for an integer. -/
def maxIntegralSize : Nat := Nat.pow 2 63

/-- An integer: a whole number in any form. A floating-point number must be whole and not too large,
a text must write an integer, and a truth value is zero or one. -/
def integer : Json → Checked Int
  | .int value => .valid value
  | .bool value => .valid (if value then 1 else 0)
  | .float value =>
    match value with
    | .nan | .infinite _ => .fail .finiteNumber
    | value => match value.toInt? with
      | none => .fail .intFromFloat
      | some whole => if whole.natAbs < maxIntegralSize then .valid whole else .fail .intParsingSize
  | .str (.unicode value) => match Decimal.readInt value.toList with
    | .ok whole => .valid whole
    | .error .malformed => .fail .intParsing
    | .error .tooLong => .fail .intParsingSize
  | .str _ => .fail .stringUnicode
  | .null | .arr _ | .obj _ => .fail .intType

/-- A floating-point number in any form. A whole number is taken for the nearest one, unless it is
beyond all of them. -/
def floating : Json → Checked Binary64
  | .int value => match Binary64.ofInt value with
    | .infinite _ => .fail .floatType
    | number => .valid number
  | .bool value => .valid (.ofInt (if value then 1 else 0))
  | .float value => .valid value
  | .str (.unicode value) => match Decimal.readFloat? value.toList with
    | some number => .valid number
    | none => .fail .floatParsing
  | .str _ => .fail .stringUnicode
  | .null | .arr _ | .obj _ => .fail .floatType

/-- A floating-point number greater than zero. The comparison comes after the reading, and
not-a-number fails it. -/
def positive (value : Json) : Checked Binary64 :=
  (floating value).andThen fun number =>
    if number.isPositive then .valid number else .fail .greaterThan

/-- The texts that mean no, in lower case. -/
def noWords : List String := ["0", "off", "f", "false", "n", "no"]

/-- The texts that mean yes, in lower case. -/
def yesWords : List String := ["1", "on", "t", "true", "y", "yes"]

/-- A flag: a truth value, zero or one, or a word for yes or no in any case. A word must not have
blanks around it. -/
def flag : Json → Checked Bool
  | .bool value => .valid value
  | .str (.unicode value) =>
    let word := value.toLower
    if yesWords.contains word then .valid true
    else if noWords.contains word then .valid false
    else .fail .boolParsing
  | .int value =>
    if value = 0 then .valid false else if value = 1 then .valid true else .fail .boolParsing
  | .float value =>
    if value.toInt? = some 0 then .valid false
    else if value.toInt? = some 1 then .valid true
    else .fail .boolParsing
  | .str _ => .fail .stringUnicode
  | .null | .arr _ | .obj _ => .fail .boolType

end SourceAudit.Validation
