import SourceAudit.Decimal.Shortest
import SourceAudit.Json.Basic
import SourceAudit.Text.Quoted

/-!
# Writing JSON

A layout says what stands between the parts of a document and whether characters beyond ASCII are
escaped. `indented` is the layout of documents on disk, `spaced` that of printed answers, and `dense`
that of messages on the wire.
-/

namespace SourceAudit.Json

open Decimal (Binary64)

/-- What stands between the parts of a document, and which characters are written as they are.
Readers take all layouts alike. -/
structure Layout where
  /-- After the comma between two items or members. -/
  gap : List Char
  /-- After the colon of a member. -/
  colonGap : List Char
  /-- The number of spaces for each level of a broken line; no line is broken without it. -/
  indent : Option Nat
  /-- Whether every character beyond ASCII is escaped. -/
  asciiOnly : Bool

/-- Two spaces a level, a part to a line, ASCII only. An empty array or object stays on its line. -/
def Layout.indented : Layout := ⟨[], [' '], some 2, true⟩

/-- One line with a space after commas and colons, ASCII only. -/
def Layout.spaced : Layout := ⟨[' '], [' '], none, true⟩

/-- One line without spaces, characters as they are. A surrogate is escaped here too, as it is in
every layout. -/
def Layout.dense : Layout := ⟨[], [], none, false⟩

/-- The line break before a part at a level. -/
def Layout.lineBreak (layout : Layout) (level : Nat) : List Char :=
  match layout.indent with
  | none => []
  | some width => '\n' :: List.replicate (width * level) ' '

/-- A UTF-16 unit as an escape. -/
def unitEscape (unit : Nat) : List Char :=
  '\\' :: 'u' :: Text.hexDigits 4 unit

/-- A code point as escapes: two of them beyond the sixteen-bit range, which are the units of a pair
of surrogates. -/
def pointEscape (point : Nat) : List Char :=
  if point < 0x10000 then unitEscape point
  else unitEscape (0xd800 + (point - 0x10000) / 0x400)
    ++ unitEscape (0xdc00 + (point - 0x10000) % 0x400)

/-- A code point inside a string. Control characters are always escaped, and so are surrogates, which no
encoding could hold otherwise. -/
def writePoint (asciiOnly : Bool) (point : Nat) : List Char :=
  if point = '"'.toNat then ['\\', '"']
  else if point = '\\'.toNat then ['\\', '\\']
  else if point = '\n'.toNat then ['\\', 'n']
  else if point = '\r'.toNat then ['\\', 'r']
  else if point = '\t'.toNat then ['\\', 't']
  else if point = 8 then ['\\', 'b']
  else if point = 12 then ['\\', 'f']
  else if point < 0x20 then pointEscape point
  else if 0xd800 ≤ point ∧ point < 0xe000 then pointEscape point
  else if asciiOnly && decide (0x7f ≤ point) then pointEscape point
  else [Char.ofNat point]

/-- Code points as a string. -/
def writePoints (asciiOnly : Bool) (points : List Nat) : List Char :=
  '"' :: (points.flatMap (writePoint asciiOnly) ++ ['"'])

/-- A text as a string. Two surrogates that would make up a pair are written like one character, so
they read back as that. -/
def writeString (asciiOnly : Bool) (text : LooseText) : List Char :=
  writePoints asciiOnly text.points

/-- A floating-point number as a document writes it. What is not finite has names that the standard
does not know. -/
def writeFloat : Binary64 → List Char
  | .nan => "NaN".toList
  | .infinite negative => if negative then "-Infinity".toList else "Infinity".toList
  | number => number.text.toList

/-- Parts between brackets at a level. The closing bracket stands at the level of the opening one,
the parts one level further in. -/
def writeGroup (layout : Layout) (level : Nat) (opening closing : Char) (parts : List (List Char)) :
    List Char :=
  if parts.isEmpty then [opening, closing]
  else
    let before := layout.lineBreak (level + 1)
    opening :: before ++ (List.intercalate (',' :: layout.gap ++ before) parts)
      ++ layout.lineBreak level ++ [closing]

mutual

/-- A value at a level, which matters only where lines are broken. -/
def write (layout : Layout) (level : Nat) : Json → List Char
  | .null => "null".toList
  | .bool value => if value then "true".toList else "false".toList
  | .int value => (Decimal.intText value).toList
  | .float value => writeFloat value
  | .str value => writeString layout.asciiOnly value
  | .arr items => writeGroup layout level '[' ']' (writeItems layout (level + 1) items)
  | .obj members => writeGroup layout level '\x7b' '\x7d' (writeMembers layout (level + 1) members)

/-- The items of an array, each at the same level. -/
def writeItems (layout : Layout) (level : Nat) : List Json → List (List Char)
  | [] => []
  | item :: rest => write layout level item :: writeItems layout level rest

/-- The members of an object, each at the same level. -/
def writeMembers (layout : Layout) (level : Nat) : List (LooseText × Json) → List (List Char)
  | [] => []
  | (name, value) :: rest =>
    (writeString layout.asciiOnly name ++ ':' :: layout.colonGap ++ write layout level value)
      :: writeMembers layout level rest

end

/-- A document in a layout, without a line feed at its end. -/
def render (layout : Layout) (value : Json) : String :=
  String.ofList (write layout 0 value)

end SourceAudit.Json
