import SourceAudit.Decimal.Shortest
import SourceAudit.Json.Basic
import SourceAudit.Text.Quoted

/-!
# JSON values inside messages

How a value shows in a message: `quoted` writes a string with its quotes, `display` writes it bare.
-/

namespace SourceAudit.Json

/-- Parts separated by a comma and a space. -/
def commaSeparated (parts : List (List Char)) : List Char :=
  List.intercalate [',', ' '] parts

mutual

/-- A value with quotes around its strings, at every depth. Numbers that are not finite show by
their names in lower case. -/
def quotedChars : Json → List Char
  | .null => "None".toList
  | .bool value => if value then "True".toList else "False".toList
  | .int value => (Decimal.intText value).toList
  | .float value => value.text.toList
  | .str value => Text.quotePoints value.points
  | .arr items => '[' :: commaSeparated (quotedItems items) ++ [']']
  | .obj members => '\x7b' :: commaSeparated (quotedMembers members) ++ ['\x7d']

/-- The items of an array. -/
def quotedItems : List Json → List (List Char)
  | [] => []
  | item :: rest => quotedChars item :: quotedItems rest

/-- The members of an object. -/
def quotedMembers : List (LooseText × Json) → List (List Char)
  | [] => []
  | (name, value) :: rest =>
    (Text.quotePoints name.points ++ ':' :: ' ' :: quotedChars value) :: quotedMembers rest

end

/-- A value with quotes around its strings. -/
def quoted (value : Json) : String :=
  String.ofList (quotedChars value)

/-- A value as it shows on its own: a string has no quotes, so that what is wrong with its text stays
wrong in the message. -/
def display : Json → LooseText
  | .str value => value
  | value => value.quoted

end SourceAudit.Json
