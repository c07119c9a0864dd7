import SourceAudit.Json.Basic

/-!
# Validation

A checked value is valid, or invalid with every issue that was found, each at its location. Checks of
the fields of a record combine so that the issues of all fields are reported, in the order of the
fields (`Checked.ap`), and those of the items of a list with their positions (`Checked.ofList`).
-/

namespace SourceAudit.Validation

/-- One step into a value: a member of an object or an item of an array. -/
inductive Segment
  | field (name : String)
  | item (index : Nat)
  deriving DecidableEq

/-- What is wrong with a value at some location. The kinds tell a value of the wrong form from one
that cannot be read and from one that is out of range. -/
inductive Kind
  | missing
  | stringType
  | stringUnicode
  | enumValue
  | intType
  | intParsing
  | intParsingSize
  | intFromFloat
  | finiteNumber
  | greaterThanEqual
  | floatType
  | floatParsing
  | greaterThan
  | literalError
  | boolType
  | boolParsing
  | listType
  | modelType
  | modelAttributesType
  | valueError
  | datetimeType
  | datetimeParsing
  | datetimeFromDateParsing
  | jsonInvalid
  deriving DecidableEq

/-- The name of a kind of issue, by which responses tell it. -/
def Kind.name : Kind → String
  | .missing => "missing"
  | .stringType => "string_type"
  | .stringUnicode => "string_unicode"
  | .enumValue => "enum"
  | .intType => "int_type"
  | .intParsing => "int_parsing"
  | .intParsingSize => "int_parsing_size"
  | .intFromFloat => "int_from_float"
  | .finiteNumber => "finite_number"
  | .greaterThanEqual => "greater_than_equal"
  | .floatType => "float_type"
  | .floatParsing => "float_parsing"
  | .greaterThan => "greater_than"
  | .literalError => "literal_error"
  | .boolType => "bool_type"
  | .boolParsing => "bool_parsing"
  | .listType => "list_type"
  | .modelType => "model_type"
  | .modelAttributesType => "model_attributes_type"
  | .valueError => "value_error"
  | .datetimeType => "datetime_type"
  | .datetimeParsing => "datetime_parsing"
  | .datetimeFromDateParsing => "datetime_from_date_parsing"
  | .jsonInvalid => "json_invalid"

/-- Something wrong at a location, the outermost step first. Several issues may share a location. -/
structure Issue where
  location : List Segment
  kind : Kind
  deriving DecidableEq

/-- Issues found in a value of a named type. The name is for messages only. -/
structure Failure where
  typeName : String
  issues : List Issue
  deriving DecidableEq

/-- The first line of a failure's wording: how many issues there are, and in what. The lines after
it, one or more for each issue, are left out. -/
def Failure.message (failure : Failure) : String :=
  let count := failure.issues.length
  Decimal.natText count ++ (if count = 1 then " validation error for " else " validation errors for ")
    ++ failure.typeName

/-- A valid value, or every issue that was found. Checks that do not depend on each other are all
made before an invalid value is given up. -/
inductive Checked (α : Type)
  | valid (value : α)
  | invalid (issues : List Issue)
  deriving DecidableEq

namespace Checked

variable {α β : Type}

/-- One issue with the value itself. -/
def fail (kind : Kind) : Checked α :=
  .invalid [⟨[], kind⟩]

/-- Change the value of a valid one. -/
def map (f : α → β) : Checked α → Checked β
  | .valid value => .valid (f value)
  | .invalid issues => .invalid issues

/-- Go on with a valid value. The next check sees the value, so its issues are never told beside
those of the first. -/
def andThen (checked : Checked α) (next : α → Checked β) : Checked β :=
  match checked with
  | .valid value => next value
  | .invalid issues => .invalid issues

/-- Apply a checked function to a checked value; the issues of both are kept, those of the function
first. -/
def ap : Checked (α → β) → Checked α → Checked β
  | .valid f, .valid value => .valid (f value)
  | .valid _, .invalid issues => .invalid issues
  | .invalid issues, .valid _ => .invalid issues
  | .invalid first, .invalid second => .invalid (first ++ second)

/-- Locate the issues one step further out, as those of a part are located in the whole. -/
def within (segment : Segment) : Checked α → Checked α
  | .valid value => .valid value
  | .invalid issues =>
    .invalid (issues.map fun issue => { issue with location := segment :: issue.location })

/-- A list of checked values from a position on. -/
def ofListFrom (index : Nat) : List (Checked α) → Checked (List α)
  | [] => .valid []
  | item :: rest => ((item.within (.item index)).map List.cons).ap (ofListFrom (index + 1) rest)

/-- A list of checked values, valid if all of them are. -/
def ofList (items : List (Checked α)) : Checked (List α) :=
  ofListFrom 0 items

/-- A checked value of a named type. -/
def toExcept (checked : Checked α) (typeName : String) : Except Failure α :=
  match checked with
  | .valid value => .ok value
  | .invalid issues => .error ⟨typeName, issues⟩

end Checked

end SourceAudit.Validation
