import SourceAudit.Decimal.Digits
import SourceAudit.Text.Loose
import SourceAudit.Text.Quoted
import SourceAudit.Text.Utf8

/-!
# Text that an encoding cannot hold

A header value must be ASCII (`asciiFault?`). A path is UTF-8, where a surrogate from `U+DC80` on stands
for the one byte that it was once decoded from, and no other surrogate can be encoded (`pathBytes`). An
error names the first stretch of code points that cannot be encoded.
-/

namespace SourceAudit.Text

open Decimal (natText)

/-- The first stretch of code points that an encoding cannot hold: the name of the encoding, where the
stretch starts, its code points, and what is wrong with them. -/
structure EncodeError where
  encoding : String
  position : Nat
  stretch : List Nat
  reason : String
  deriving DecidableEq

/-- The wording of an encoding error; a single code point is shown, a longer stretch only located. -/
def EncodeError.message (error : EncodeError) : String :=
  let place := match error.stretch with
    | [point] => "character '" ++ String.ofList (escapePoint point) ++ "' in position "
        ++ natText error.position
    | stretch => "characters in position " ++ natText error.position ++ "-"
        ++ natText (error.position + stretch.length - 1)
  "'" ++ error.encoding ++ "' codec can't encode " ++ place ++ ": " ++ error.reason

/-- Whether a code point is beyond ASCII. -/
def isBeyondAscii (point : Nat) : Bool :=
  decide (0x80 ≤ point)

/-- Why a text cannot be written in ASCII, if it cannot. The error shows the first stretch beyond
ASCII and its place. -/
def asciiFault? (text : LooseText) : Option EncodeError :=
  (text.points.findIdx? isBeyondAscii).map fun position =>
    ⟨"ascii", position, (text.points.drop position).takeWhile isBeyondAscii,
      "ordinal not in range(128)"⟩

/-- Whether a surrogate stands for a byte that no text could be decoded from. Bytes below 128 are
text, so only half of the bytes have one. -/
def isEscapedByte (point : Nat) : Bool :=
  decide (0xdc80 ≤ point) && decide (point ≤ 0xdcff)

/-- The bytes that a code point of a path stands for. -/
def pointBytes (point : Nat) : List UInt8 :=
  if isEscapedByte point then [(point - 0xdc00).toUInt8] else Utf8.encodeChar (Char.ofNat point)

/-- Whether a code point has no place in a path: a surrogate that stands for no byte. -/
def isUnencodable (point : Nat) : Bool :=
  isSurrogate point && !isEscapedByte point

/-- The bytes of a path. The stretch of an error goes on as long as surrogates follow, those that stand
for a byte among them. -/
def pathBytes (text : LooseText) : Except EncodeError (List UInt8) :=
  match text.points.findIdx? isUnencodable with
  | some position =>
    .error ⟨"utf-8", position, (text.points.drop position).takeWhile isSurrogate,
      "surrogates not allowed"⟩
  | none => .ok (text.points.flatMap pointBytes)

end SourceAudit.Text
