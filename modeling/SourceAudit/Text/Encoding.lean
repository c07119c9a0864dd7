import SourceAudit.Decimal.Digits
import SourceAudit.Text.Hexadecimal
import SourceAudit.Text.Utf8

/-!
# Encodings of text

The encodings that a reply can arrive in. `Encoding.decodeLossy` reads any bytes, and
`Encoding.decodeMarked` all but those that lack the mark of their byte order.
`Encoding.decodeDocument` reads a JSON document, finds its encoding by its first bytes
(`Encoding.ofDocument`), passes an encoded surrogate on as its code point, and reports the first
stretch that is malformed otherwise.
-/

namespace SourceAudit.Text

open Decimal (natText)

/-- How the bytes of a wide unit are ordered: a mark at the start says it, or it is fixed. -/
inductive ByteOrder
  | marked
  | little
  | big
  deriving DecidableEq

/-- An encoding of text as bytes: three forms of Unicode, perhaps with a mark at the start, and
three with one byte for each character. -/
inductive Encoding
  | utf8
  | utf8Marked
  | utf16 (order : ByteOrder)
  | utf32 (order : ByteOrder)
  | latin1
  | windows1252
  | ascii
  deriving DecidableEq

namespace Encoding

/-- A sequence of UTF-16 units as pieces; `tail` is the number of bytes after the last unit. The first
half of a pair at the end takes them with it. -/
def utf16Pieces (tail : Nat) : List Nat → List Piece
  | [] => if tail = 0 then [] else [.malformed tail .truncated]
  | unit :: rest =>
    if unit < 0xd800 ∨ 0xe000 ≤ unit then .char (Char.ofNat unit) :: utf16Pieces tail rest
    else if unit < 0xdc00 then
      match rest with
      | next :: later =>
        if 0xdc00 ≤ next ∧ next < 0xe000 then
          .char (Char.ofNat (0x10000 + (unit - 0xd800) * 0x400 + (next - 0xdc00)))
            :: utf16Pieces tail later
        else .malformed 2 .loneSurrogate :: utf16Pieces tail (next :: later)
      | [] => [.malformed (2 + tail) .loneSurrogate]
    else .malformed 2 .loneSurrogate :: utf16Pieces tail rest

/-- A sequence of UTF-32 units as pieces; `tail` is the number of bytes after the last unit. Each
unit is a piece of its own, well-formed or not. -/
def utf32Pieces (tail : Nat) (units : List Nat) : List Piece :=
  (units.map fun unit =>
    if unit < 0xd800 ∨ (0xe000 ≤ unit ∧ unit < 0x110000) then .char (Char.ofNat unit)
    else if unit < 0x110000 then .malformed 4 .loneSurrogate
    else .malformed 4 .outOfRange)
  ++ if tail = 0 then [] else [.malformed tail .truncated]

/-- Bytes grouped into units of two, and the number of bytes left over. -/
def units16 (big : Bool) : List UInt8 → List Nat × Nat
  | a :: b :: rest =>
    let unit := if big then a.toNat * 0x100 + b.toNat else b.toNat * 0x100 + a.toNat
    let (units, tail) := units16 big rest
    (unit :: units, tail)
  | rest => ([], rest.length)

/-- Bytes grouped into units of four, and the number of bytes left over. -/
def units32 (big : Bool) : List UInt8 → List Nat × Nat
  | a :: b :: c :: d :: rest =>
    let unit :=
      if big then ((a.toNat * 0x100 + b.toNat) * 0x100 + c.toNat) * 0x100 + d.toNat
      else ((d.toNat * 0x100 + c.toNat) * 0x100 + b.toNat) * 0x100 + a.toNat
    let (units, tail) := units32 big rest
    (unit :: units, tail)
  | rest => ([], rest.length)

/-- The characters of the bytes from `0x80` to `0x9f` in the code page 1252; zero where it has none. -/
def windows1252Points : List Nat :=
  [0x20ac, 0, 0x201a, 0x192, 0x201e, 0x2026, 0x2020, 0x2021, 0x2c6, 0x2030, 0x160, 0x2039, 0x152,
    0, 0x17d, 0, 0, 0x2018, 0x2019, 0x201c, 0x201d, 0x2022, 0x2013, 0x2014, 0x2dc, 0x2122, 0x161,
    0x203a, 0x153, 0, 0x17e, 0x178]

/-- One byte of a text in the code page 1252, which is Latin-1 but for 32 bytes. -/
def windows1252Piece (byte : UInt8) : Piece :=
  if byte < 0x80 ∨ 0xa0 ≤ byte then .char (Char.ofNat byte.toNat)
  else match windows1252Points.getD (byte.toNat - 0x80) 0 with
    | 0 => .malformed 1 .outOfRange
    | point => .char (Char.ofNat point)

/-- The encoding that the mark at the start decides, and the bytes after the mark, also after one of
UTF-8 that is cut short. Without a mark the little order holds. -/
def resolve : Encoding → List UInt8 → Encoding × List UInt8
  | .utf8Marked, 0xef :: 0xbb :: 0xbf :: rest => (.utf8, rest)
  | .utf8Marked, [0xef, 0xbb] | .utf8Marked, [0xef] => (.utf8, [])
  | .utf8Marked, bytes => (.utf8, bytes)
  | .utf16 .marked, 0xff :: 0xfe :: rest => (.utf16 .little, rest)
  | .utf16 .marked, 0xfe :: 0xff :: rest => (.utf16 .big, rest)
  | .utf16 .marked, bytes => (.utf16 .little, bytes)
  | .utf32 .marked, 0xff :: 0xfe :: 0 :: 0 :: rest => (.utf32 .little, rest)
  | .utf32 .marked, 0 :: 0 :: 0xfe :: 0xff :: rest => (.utf32 .big, rest)
  | .utf32 .marked, bytes => (.utf32 .little, bytes)
  | encoding, bytes => (encoding, bytes)

/-- The pieces of bytes whose mark has been read. Every byte belongs to exactly one piece. -/
def pieces (encoding : Encoding) (bytes : List UInt8) : List Piece :=
  match encoding with
  | .utf8 | .utf8Marked => Utf8.scan bytes
  | .utf16 order => let (units, tail) := units16 (order == .big) bytes; utf16Pieces tail units
  | .utf32 order => let (units, tail) := units32 (order == .big) bytes; utf32Pieces tail units
  | .latin1 => bytes.map fun byte => .char (Char.ofNat byte.toNat)
  | .windows1252 => bytes.map windows1252Piece
  | .ascii => bytes.map fun byte =>
      if byte < 0x80 then .char (Char.ofNat byte.toNat) else .malformed 1 .outOfRange

/-- The text of any bytes, with one replacement character for each malformed stretch. A mark at the
start is taken off where the encoding has one. -/
def decodeLossy (encoding : Encoding) (bytes : List UInt8) : List Char :=
  let (encoding, bytes) := encoding.resolve bytes
  (encoding.pieces bytes).map Piece.toChar

/-- Whether bytes hold a unit of an encoding that asks for a mark, and do not start with the mark. -/
def lacksMark (encoding : Encoding) (bytes : List UInt8) : Bool :=
  match encoding with
  | .utf16 .marked => 2 ≤ bytes.length && bytes.take 2 != [0xff, 0xfe] && bytes.take 2 != [0xfe, 0xff]
  | .utf32 .marked =>
    4 ≤ bytes.length && bytes.take 4 != [0xff, 0xfe, 0, 0] && bytes.take 4 != [0, 0, 0xfe, 0xff]
  | _ => false

/-- The encoding with a given label, in any case and with any of its separators. There are encodings
with a label that are not known here. -/
def ofLabel? (label : String) : Option Encoding :=
  let folded := String.ofList <| label.toList.map fun c =>
    if c == '-' || c == ' ' then '_' else c.toLower
  let known : List (Encoding × List String) :=
    [(.utf8, ["utf_8", "utf8", "u8", "utf", "cp65001"]),
      (.utf8Marked, ["utf_8_sig"]),
      (.utf16 .marked, ["utf_16", "utf16", "u16"]),
      (.utf16 .little, ["utf_16_le", "utf_16le", "unicodelittleunmarked"]),
      (.utf16 .big, ["utf_16_be", "utf_16be", "unicodebigunmarked"]),
      (.utf32 .marked, ["utf_32", "utf32", "u32"]),
      (.utf32 .little, ["utf_32_le", "utf_32le"]),
      (.utf32 .big, ["utf_32_be", "utf_32be"]),
      (.latin1, ["latin_1", "latin1", "latin", "l1", "iso_8859_1", "iso8859_1", "iso8859", "8859",
        "cp819", "ibm819", "iso_ir_100", "csisolatin1", "iso_8859_1_1987"]),
      (.windows1252, ["cp1252", "1252", "windows_1252"]),
      (.ascii, ["ascii", "us_ascii", "us", "646", "cp367", "ibm367", "csascii", "iso646_us",
        "iso_ir_6", "ansi_x3.4_1968", "ansi_x3.4_1986"])]
  (known.find? (·.2.contains folded)).map (·.1)

/-- The encoding of a JSON document: its mark, or the zero bytes around its first character, which
must be ASCII. -/
def ofDocument : List UInt8 → Encoding
  | 0 :: 0 :: 0xfe :: 0xff :: _ => .utf32 .marked
  | 0xff :: 0xfe :: 0 :: 0 :: _ => .utf32 .marked
  | 0xfe :: 0xff :: _ => .utf16 .marked
  | 0xff :: 0xfe :: _ => .utf16 .marked
  | 0xef :: 0xbb :: 0xbf :: _ => .utf8Marked
  | a :: b :: c :: d :: _ =>
    if a = 0 then if b = 0 then .utf32 .big else .utf16 .big
    else if b = 0 then if c = 0 ∧ d = 0 then .utf32 .little else .utf16 .little
    else .utf8
  | [a, b] => if a = 0 then .utf16 .big else if b = 0 then .utf16 .little else .utf8
  | _ => .utf8

end Encoding

/-- Bytes that lack the mark that an encoding asks for. -/
structure MissingMark where
  encoding : Encoding
  deriving DecidableEq

/-- The wording of a missing mark. -/
def MissingMark.message (missing : MissingMark) : String :=
  (match missing.encoding with
    | .utf32 _ => "UTF-32"
    | _ => "UTF-16")
    ++ " stream does not start with BOM"

/-- The text of bytes, with one replacement character for each malformed stretch; a mark that the
encoding asks for must be there. -/
def Encoding.decodeMarked (encoding : Encoding) (bytes : List UInt8) :
    Except MissingMark (List Char) :=
  if encoding.lacksMark bytes then .error ⟨encoding⟩ else .ok (encoding.decodeLossy bytes)

/-- The first malformed stretch of a byte sequence: the encoding it was read in, its bytes, where
it starts, and what is wrong. -/
structure DecodeError where
  encoding : Encoding
  bytes : List UInt8
  position : Nat
  defect : Defect
  deriving DecidableEq

/-- Whether bytes start with a surrogate written as three bytes. -/
def startsWithSurrogate : List UInt8 → Bool
  | 0xed :: b :: c :: _ => decide (0xa0 ≤ b ∧ b ≤ 0xbf ∧ 0x80 ≤ c ∧ c ≤ 0xbf)
  | _ => false

/-- The number of bytes that a character of a document takes, by which places in the document are
told. -/
def Encoding.width (encoding : Encoding) (c : Char) : Nat :=
  match encoding with
  | .utf8 | .utf8Marked => (Utf8.encodeChar c).length
  | .utf16 _ => if c.toNat < 0x10000 then 2 else 4
  | .utf32 _ => 4
  | .latin1 | .windows1252 | .ascii => 1

/-- The surrogate that an encoding has written at the start of some bytes. -/
def Encoding.surrogate : Encoding → List UInt8 → Nat
  | .utf16 .big, a :: b :: _ => a.toNat * 0x100 + b.toNat
  | .utf16 _, a :: b :: _ => b.toNat * 0x100 + a.toNat
  | .utf32 .big, _ :: _ :: a :: b :: _ => a.toNat * 0x100 + b.toNat
  | .utf32 _, a :: b :: _ => b.toNat * 0x100 + a.toNat
  | _, _ :: b :: c :: _ => 0xd000 + (b.toNat - 0x80) * 0x40 + (c.toNat - 0x80)
  | _, _ => replacement.toNat

/-- Collect the code points of pieces that start at an offset of the bytes. A surrogate passes as its
code point, but not a single byte after it; in UTF-8 it is three malformed stretches of one byte. -/
def Encoding.collect (encoding : Encoding) (bytes : List UInt8) (offset : Nat)
    (found : List Nat) : List Piece → Except DecodeError (List Nat)
  | [] => .ok found.reverse
  | .char c :: rest => encoding.collect bytes (offset + encoding.width c) (c.toNat :: found) rest
  | .malformed length defect :: rest =>
    let passed := encoding.surrogate (bytes.drop offset)
    if defect = .loneSurrogate ∧ length % 2 = 1 then
      .error ⟨encoding, (bytes.drop (offset + length - 1)).take 1, offset + length - 1, .truncated⟩
    else if defect = .loneSurrogate then
      encoding.collect bytes (offset + length) (passed :: found) rest
    else if encoding = .utf8 ∧ startsWithSurrogate (bytes.drop offset) then
      match rest with
      | _ :: _ :: later => encoding.collect bytes (offset + 3) (passed :: found) later
      | later => encoding.collect bytes (offset + 3) (passed :: found) later
    else .error ⟨encoding, (bytes.drop offset).take length, offset, defect⟩

/-- The code points of a JSON document. Offsets count from the start of the bytes, except that the mark
of UTF-8 is not counted. -/
def Encoding.decodeDocument (bytes : List UInt8) : Except DecodeError (List Nat) :=
  let (encoding, body) := (Encoding.ofDocument bytes).resolve bytes
  let counted := if encoding = .utf8 then body else bytes
  encoding.collect counted (counted.length - body.length) [] (encoding.pieces body)

/-- The name of an encoding in error messages. -/
def Encoding.name : Encoding → String
  | .utf8 | .utf8Marked => "utf-8"
  | .utf16 .big => "utf-16-be"
  | .utf16 _ => "utf-16-le"
  | .utf32 .big => "utf-32-be"
  | .utf32 _ => "utf-32-le"
  | .latin1 => "latin-1"
  | .windows1252 => "cp1252"
  | .ascii => "ascii"

/-- The wording of a defect. -/
def Defect.reason : Defect → String
  | .badStart => "invalid start byte"
  | .badContinuation => "invalid continuation byte"
  | .endOfInput => "unexpected end of data"
  | .truncated => "truncated data"
  | .loneSurrogate => "illegal encoding"
  | .outOfRange => "code point not in range(0x110000)"

/-- A byte as two hexadecimal digits. -/
def hexByte (byte : UInt8) : String :=
  String.ofList (hexDigits 2 byte.toNat)

/-- The wording of a decoding error; a single byte is shown, a longer stretch only located. -/
def DecodeError.message (error : DecodeError) : String :=
  let place := match error.bytes with
    | [byte] => "byte 0x" ++ hexByte byte ++ " in position " ++ natText error.position
    | bytes => "bytes in position " ++ natText error.position ++ "-"
        ++ natText (error.position + bytes.length - 1)
  "'" ++ error.encoding.name ++ "' codec can't decode " ++ place ++ ": " ++ error.defect.reason

end SourceAudit.Text
