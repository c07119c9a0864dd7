import SourceAudit.Json.Basic

/-!
# What can be done with a document

A document that is printed escapes every surrogate and writes `NaN` and the infinities by their names. A
response cannot: its characters are written as they are, and a reader of the standard takes no such
name (`isSendable`). A history that is read back must be Unicode text (`isUnicode`).
-/

namespace SourceAudit.Json

open Decimal (Binary64)

/-- A test of every part of a value that has no parts itself, member names among the texts. What a
test does not mention passes. -/
structure Test where
  text : LooseText → Bool := fun _ => true
  int : Int → Bool := fun _ => true
  float : Binary64 → Bool := fun _ => true

mutual

/-- Whether every part of a value passes a test. -/
def passes (test : Test) : Json → Bool
  | .null | .bool _ => true
  | .int value => test.int value
  | .float value => test.float value
  | .str value => test.text value
  | .arr items => allPass test items
  | .obj members => membersPass test members

/-- Whether every part of some values passes a test. -/
def allPass (test : Test) : List Json → Bool
  | [] => true
  | item :: rest => item.passes test && allPass test rest

/-- Whether every part of some members passes a test. -/
def membersPass (test : Test) : List (LooseText × Json) → Bool
  | [] => true
  | (name, value) :: rest => test.text name && value.passes test && membersPass test rest

end

/-- Whether every text of a value is Unicode text, member names among them also where nothing asks
for the member. -/
def isUnicode (value : Json) : Bool :=
  value.passes { text := LooseText.isUnicode }

/-- Whether every number of a value is one of the standard, which has no name for what is not
finite. Whole numbers are, whatever their size. -/
def isFinite (value : Json) : Bool :=
  value.passes { float := Binary64.isFinite }

/-- Whether a value can be the body of a response: its texts can be encoded, and its numbers
written. A whole number may be too long for that. -/
def isSendable (value : Json) : Bool :=
  value.passes
    { text := LooseText.isUnicode
      int := fun value => Decimal.isWritable value.natAbs
      float := Binary64.isFinite }

end SourceAudit.Json
