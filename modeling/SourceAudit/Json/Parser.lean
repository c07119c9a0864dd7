import SourceAudit.Decimal.Numeral
import SourceAudit.Json.Basic
import SourceAudit.Text.Hexadecimal

/-!
# Reading JSON

A document is one value with blanks around it. Beside the standard, `NaN` and the infinities are
numbers. A fault of the text is reported with the place where reading stopped, except that an
unterminated string is reported where it starts. Two limits are faults of their own: the length of a
whole number and the depth of nesting, which is as great as the caller of a reader allows.

A lenient decoder passes surrogates on. Outside of strings they are faults like any other stray
character, so a `Source` has the replacement character in their place, and says beside it what stood
there.
-/

namespace SourceAudit.Json

open Decimal (Binary64)

/-- What a document lacks or has too much of at some place. A reader stops at the first problem, so
there is never more than one. -/
inductive Problem
  | expectingValue
  | expectingName
  | expectingColon
  | expectingComma
  | unterminatedString
  | controlCharacter
  | badEscape
  | badUnicodeEscape
  | extraData
  | byteOrderMark
  deriving DecidableEq

/-- Why a text is no document. A place is the number of characters that are left from it on, as a
reader does not know how many it has passed; the limits have no place. -/
inductive Fault
  | at (problem : Problem) (left : Nat)
  | numberTooLong (digits : Nat)
  | tooDeep (inArray : Bool)
  deriving DecidableEq

/-- A part that has been read, and the text after it. -/
abbrev Reading (α : Type) := Except Fault (α × List Char)

/-- The surrogates that a decoder has passed on: each with the number of characters after it, which
tells its place in any rest of the text. -/
abbrev Marks := List (Nat × Surrogate)

/-- A decoded text, with the replacement character in place of each surrogate of `marks`. A
replacement character that is not marked stands for itself. -/
structure Source where
  chars : List Char
  marks : Marks

instance : Coe (List Char) Source := ⟨fun chars => ⟨chars, []⟩⟩

/-- Put a code point in front of a decoded text. -/
def Source.addPoint (point : Nat) (source : Source) : Source :=
  if lone : isSurrogate point = true then
    ⟨Text.replacement :: source.chars, (source.chars.length, ⟨point, lone⟩) :: source.marks⟩
  else ⟨Char.ofNat point :: source.chars, source.marks⟩

/-- The decoded text with given code points. -/
def Source.ofPoints (points : List Nat) : Source :=
  points.foldr addPoint ([] : List Char)

/-- The blanks of a document: space, tab and the two characters of line breaks. Other white space is a
fault outside of strings. -/
def isSpace (c : Char) : Bool :=
  c == ' ' || c == '\t' || c == '\n' || c == '\r'

/-- The text from its first character that is not blank. -/
def skipSpace (text : List Char) : List Char :=
  text.dropWhile isSpace

/-- The value of four hexadecimal digits, in either case. Anything else among them makes the escape
a bad one. -/
def hexUnit? (a b c d : Char) : Option Nat := do
  let a ← Text.hexValue? a
  let b ← Text.hexValue? b
  let c ← Text.hexValue? c
  let d ← Text.hexValue? d
  some (((a * 16 + b) * 16 + c) * 16 + d)

/-- The character that a short escape stands for. There are eight of them; the numeric escape is
read elsewhere. -/
def shortEscape? : Char → Option Nat
  | '"' => some '"'.toNat
  | '\\' => some '\\'.toNat
  | '/' => some '/'.toNat
  | 'b' => some 8
  | 'f' => some 12
  | 'n' => some '\n'.toNat
  | 'r' => some '\r'.toNat
  | 't' => some '\t'.toNat
  | _ => none

/-- What a string is made of: code points that stand for themselves or have a short escape, and the units
of numeric escapes. -/
inductive StringPart
  | plain (point : Nat)
  | unit (value : Nat)

/-- The code point of a character of a string, which a decoder may have put there for a surrogate. -/
def plainPoint (marks : Marks) (c : Char) (rest : List Char) : Nat :=
  if c = Text.replacement then
    match marks.find? (·.1 == rest.length) with
    | some (_, surrogate) => surrogate.point
    | none => c.toNat
  else c.toNat

/-- The rest of a string up to its closing quote, in parts. `opening` is the number of characters left at
the opening quote. A four-digit escape needs a character after it. -/
def readParts (marks : Marks) (opening : Nat) (done : List StringPart) :
    List Char → Reading (List StringPart)
  | [] => .error (.at .unterminatedString opening)
  | c :: rest =>
    if c = '"' then .ok (done.reverse, rest)
    else if c = '\\' then
      match rest with
      | [] => .error (.at .unterminatedString opening)
      | kind :: after =>
        if kind = 'u' then
          match after with
          | h₁ :: h₂ :: h₃ :: h₄ :: next :: later =>
            match hexUnit? h₁ h₂ h₃ h₄ with
            | some unit => readParts marks opening (.unit unit :: done) (next :: later)
            | none => .error (.at .badUnicodeEscape rest.length)
          | _ => .error (.at .badUnicodeEscape rest.length)
        else
          match shortEscape? kind with
          | some point => readParts marks opening (.plain point :: done) after
          | none => .error (.at .badEscape (rest.length + 1))
    else if c.toNat < 0x20 then .error (.at .controlCharacter (rest.length + 1))
    else readParts marks opening (.plain (plainPoint marks c rest) :: done) rest

/-- The code points of a string. The unit of a high surrogate and that of a low one right after it are
one character; only units of escapes join. -/
def joinUnits : List StringPart → List Nat
  | .unit high :: .unit low :: rest =>
    if 0xd800 ≤ high ∧ high < 0xdc00 ∧ 0xdc00 ≤ low ∧ low < 0xe000 then
      (0x10000 + (high - 0xd800) * 0x400 + (low - 0xdc00)) :: joinUnits rest
    else high :: joinUnits (.unit low :: rest)
  | .unit point :: rest => point :: joinUnits rest
  | .plain point :: rest => point :: joinUnits rest
  | [] => []

/-- The rest of a string up to its closing quote. It is a loose text, as an escape may stand for
half a pair of surrogates. -/
def readString (marks : Marks) (opening : Nat) (text : List Char) : Reading LooseText :=
  match readParts marks opening [] text with
  | .error fault => .error fault
  | .ok (parts, rest) => .ok (.ofPoints (joinUnits parts), rest)

/-- The digits after a point, if the text goes on with a point and a digit. A point without a digit
is left where it is, and is then one character too many. -/
def readFraction (text : List Char) : List Char × List Char :=
  match text with
  | '.' :: later =>
    let (digits, rest) := Decimal.spanDigits later
    if digits.isEmpty then ([], text) else (digits, rest)
  | _ => ([], text)

/-- The exponent, if the text goes on with a complete one. A letter without digits after it is left
where it is. -/
def readExponent (text : List Char) : Option Int × List Char :=
  match text with
  | c :: later =>
    if c == 'e' || c == 'E' then
      let (negative, after) := match later with
        | '+' :: rest => (false, rest)
        | '-' :: rest => (true, rest)
        | rest => (false, rest)
      let (digits, rest) := Decimal.spanDigits after
      if digits.isEmpty then (none, text)
      else
        let size : Int := Decimal.ofDigits digits
        (some (if negative then -size else size), rest)
    else (none, text)
  | [] => (none, text)

/-- The digits before the point: a zero alone, or digits that start with another one. Digits after a
leading zero are left for what follows. -/
def readWhole : List Char → List Char × List Char
  | '0' :: rest => (['0'], rest)
  | text => Decimal.spanDigits text

/-- A number; with a fraction or an exponent it is a floating-point one. Only a whole number can be
too long, and it is so by its digits without the sign. -/
def readNumber (text : List Char) : Reading Json :=
  let (negative, unsigned) := match text with
    | '-' :: rest => (true, rest)
    | rest => (false, rest)
  let (whole, rest) := readWhole unsigned
  if whole.isEmpty then .error (.at .expectingValue text.length)
  else
    let (fraction, rest) := readFraction rest
    let (exponent?, rest) := readExponent rest
    if fraction.isEmpty && exponent?.isNone then
      if whole.length > Decimal.maxNumeralLength then .error (.numberTooLong whole.length)
      else
        let size : Int := Decimal.ofDigits whole
        .ok (.int (if negative then -size else size), rest)
    else
      let exponent := exponent?.getD 0 - fraction.length
      .ok (.float (.ofDecimal negative (whole ++ fraction) exponent), rest)

/-- The names that stand for a value. They need nothing after them, so that what follows one
directly is a fault of its own place. -/
def words : List (List Char × Json) :=
  [("null".toList, .null), ("true".toList, .bool true), ("false".toList, .bool false),
    ("NaN".toList, .float .nan), ("Infinity".toList, .float (.infinite false)),
    ("-Infinity".toList, .float (.infinite true))]

/-- A word or a number. -/
def readScalar (text : List Char) : Reading Json :=
  match words.find? fun word => word.1.isPrefixOf text with
  | some (word, value) => .ok (value, text.drop word.length)
  | none => readNumber text

mutual

/-- A value. The first number bounds the steps, the second the depth of nesting; a text takes no
more steps than `stepsFor` allows it. -/
def readValue (marks : Marks) : Nat → Nat → List Char → Reading Json
  | 0, _, text => .error (.at .expectingValue text.length)
  | steps + 1, depth, text =>
    match text with
    | '"' :: rest =>
      match readString marks text.length rest with
      | .error fault => .error fault
      | .ok (value, rest) => .ok (.str value, rest)
    | '[' :: rest =>
      if depth = 0 then .error (.tooDeep true)
      else match skipSpace rest with
        | ']' :: rest => .ok (.arr [], rest)
        | rest => readItems marks steps (depth - 1) [] rest
    | '\x7b' :: rest =>
      if depth = 0 then .error (.tooDeep false)
      else match skipSpace rest with
        | '\x7d' :: rest => .ok (.obj [], rest)
        | rest => readMembers marks steps (depth - 1) [] rest
    | text => readScalar text

/-- The items of an array from the next one on, after those in `done`, latest first. -/
def readItems (marks : Marks) : Nat → Nat → List Json → List Char → Reading Json
  | 0, _, _, text => .error (.at .expectingValue text.length)
  | steps + 1, depth, done, text =>
    match readValue marks steps depth text with
    | .error fault => .error fault
    | .ok (item, rest) =>
      match skipSpace rest with
      | ',' :: rest => readItems marks steps depth (item :: done) (skipSpace rest)
      | ']' :: rest => .ok (.arr (item :: done).reverse, rest)
      | rest => .error (.at .expectingComma rest.length)

/-- The members of an object from the next one on, after those in `done`. A name that comes again
takes the new value at its old place. -/
def readMembers (marks : Marks) : Nat → Nat → Members → List Char → Reading Json
  | 0, _, _, text => .error (.at .expectingName text.length)
  | steps + 1, depth, done, text =>
    match text with
    | '"' :: rest =>
      match readString marks text.length rest with
      | .error fault => .error fault
      | .ok (name, rest) =>
        match skipSpace rest with
        | ':' :: rest =>
          match readValue marks steps depth (skipSpace rest) with
          | .error fault => .error fault
          | .ok (value, rest) =>
            let done := done.put name value
            match skipSpace rest with
            | ',' :: rest => readMembers marks steps depth done (skipSpace rest)
            | '\x7d' :: rest => .ok (.obj done, rest)
            | rest => .error (.at .expectingComma rest.length)
        | rest => .error (.at .expectingColon rest.length)
    | text => .error (.at .expectingName text.length)

end

/-- The number of steps that a text can take: at most two for each of its characters, as a bracket
opens a value and its first part, and two for a part that is missing at its end. -/
def stepsFor (text : List Char) : Nat :=
  2 * text.length + 2

/-- A whole document, nested no deeper than `depth`. Only blanks may follow the value. -/
def readDocument (depth : Nat) (source : Source) : Except Fault Json :=
  match readValue source.marks (stepsFor source.chars) depth (skipSpace source.chars) with
  | .error fault => .error fault
  | .ok (value, rest) =>
    match skipSpace rest with
    | [] => .ok value
    | rest => .error (.at .extraData rest.length)

/-- A place in a text: the number of characters before it, its line and its column. The first of
them is what a service tells, the others are for readers. -/
structure Place where
  offset : Nat
  line : Nat
  column : Nat
  deriving DecidableEq

/-- The place with a number of characters before it. Lines and columns count from one. -/
def Place.of (text : List Char) (offset : Nat) : Place :=
  let before := text.take offset
  ⟨offset, before.count '\n' + 1, (before.reverse.takeWhile (· != '\n')).length + 1⟩

/-- Why a text is no document, with the place in the text as a message shows it. -/
inductive ReadError
  | malformed (problem : Problem) (place : Place)
  | numberTooLong (digits : Nat)
  | tooDeep (inArray : Bool)
  deriving DecidableEq

/-- Locate a fault in the text. -/
def Fault.locate (text : List Char) : Fault → ReadError
  | .at problem left => .malformed problem (.of text (text.length - left))
  | .numberTooLong digits => .numberTooLong digits
  | .tooDeep inArray => .tooDeep inArray

/-- The value that a decoded text holds, nested no deeper than `depth`. -/
def parse (depth : Nat) (source : Source) : Except ReadError Json :=
  (readDocument depth source).mapError (Fault.locate source.chars)

/-- The value that typed text holds; it must not start with a byte order mark, which a decoder of
bytes would have taken off. -/
def parseTyped (depth : Nat) (source : Source) : Except ReadError Json :=
  if source.chars.head? = some (Char.ofNat 0xfeff) then
    .error (.malformed .byteOrderMark (.of source.chars 0))
  else parse depth source

/-- The wording of a problem. Some of them end so that the place can follow. -/
def Problem.message : Problem → String
  | .expectingValue => "Expecting value"
  | .expectingName => "Expecting property name enclosed in double quotes"
  | .expectingColon => "Expecting ':' delimiter"
  | .expectingComma => "Expecting ',' delimiter"
  | .unterminatedString => "Unterminated string starting at"
  | .controlCharacter => "Invalid control character at"
  | .badEscape => "Invalid \\escape"
  | .badUnicodeEscape => "Invalid \\uXXXX escape"
  | .extraData => "Extra data"
  | .byteOrderMark => "Unexpected UTF-8 BOM (decode using utf-8-sig)"

/-- The wording of a place. -/
def Place.text (place : Place) : String :=
  "line " ++ Decimal.natText place.line ++ " column " ++ Decimal.natText place.column
    ++ " (char " ++ Decimal.natText place.offset ++ ")"

/-- The wording of a reading error. -/
def ReadError.message : ReadError → String
  | .malformed problem place => problem.message ++ ": " ++ place.text
  | .numberTooLong digits =>
    "Exceeds the limit (" ++ Decimal.natText Decimal.maxNumeralLength
      ++ " digits) for integer string conversion: value has " ++ Decimal.natText digits
      ++ " digits; use sys.set_int_max_str_digits() to increase the limit"
  | .tooDeep inArray =>
    "maximum recursion depth exceeded while decoding a JSON "
      ++ (if inArray then "array" else "object") ++ " from a unicode string"

end SourceAudit.Json
