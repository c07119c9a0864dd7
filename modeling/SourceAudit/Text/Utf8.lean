import SourceAudit.Text.Piece

/-!
# UTF-8

`encode` writes a text as bytes. `scan` reads bytes as a sequence of characters and malformed
stretches, where a malformed stretch is as long as some well-formed character still agrees with it.
What a reader makes of a malformed stretch is its own decision: `decodeLossy` puts the replacement
character there, `decode?` gives up.
-/

namespace SourceAudit.Text.Utf8

/-- The bytes of one character, from one to four of them by its code point. -/
def encodeChar (c : Char) : List UInt8 :=
  let point := c.toNat
  if point < 0x80 then [point.toUInt8]
  else if point < 0x800 then [(0xc0 + point / 0x40).toUInt8, (0x80 + point % 0x40).toUInt8]
  else if point < 0x10000 then
    [(0xe0 + point / 0x1000).toUInt8, (0x80 + point / 0x40 % 0x40).toUInt8,
      (0x80 + point % 0x40).toUInt8]
  else
    [(0xf0 + point / 0x40000).toUInt8, (0x80 + point / 0x1000 % 0x40).toUInt8,
      (0x80 + point / 0x40 % 0x40).toUInt8, (0x80 + point % 0x40).toUInt8]

/-- The bytes of a text. -/
def encode (text : List Char) : List UInt8 :=
  text.flatMap encodeChar

/-- A character of which some bytes have been read: how many, how many are still to come, the range
of the next one, and the bits so far. -/
structure Pending where
  taken : Nat
  missing : Nat
  low : Nat
  high : Nat
  bits : Nat

/-- Read the first byte of a character. Overlong forms, surrogates and code points that are too
great are excluded by the first byte, or by what the second one may be. -/
def start (byte : Nat) : Piece ⊕ Pending :=
  if byte < 0x80 then .inl (.char (Char.ofNat byte))
  else if byte < 0xc2 then .inl (.malformed 1 .badStart)
  else if byte < 0xe0 then .inr ⟨1, 1, 0x80, 0xbf, byte - 0xc0⟩
  else if byte = 0xe0 then .inr ⟨1, 2, 0xa0, 0xbf, 0⟩
  else if byte = 0xed then .inr ⟨1, 2, 0x80, 0x9f, 0xd⟩
  else if byte < 0xf0 then .inr ⟨1, 2, 0x80, 0xbf, byte - 0xe0⟩
  else if byte = 0xf0 then .inr ⟨1, 3, 0x90, 0xbf, 0⟩
  else if byte < 0xf4 then .inr ⟨1, 3, 0x80, 0xbf, byte - 0xf0⟩
  else if byte = 0xf4 then .inr ⟨1, 3, 0x80, 0x8f, 4⟩
  else .inl (.malformed 1 .badStart)

/-- The pieces found so far, latest first, and the character being read. -/
structure Progress where
  found : List Piece
  pending : Option Pending

/-- Begin a character with a byte. -/
def Progress.begin (found : List Piece) (byte : Nat) : Progress :=
  match start byte with
  | .inl piece => ⟨piece :: found, none⟩
  | .inr pending => ⟨found, some pending⟩

/-- Read one more byte. A byte that cannot continue the pending character ends it as malformed and
begins the next one. -/
def Progress.read (progress : Progress) (input : UInt8) : Progress :=
  let byte := input.toNat
  match progress.pending with
  | none => .begin progress.found byte
  | some pending =>
    if pending.low ≤ byte ∧ byte ≤ pending.high then
      let bits := pending.bits * 0x40 + (byte - 0x80)
      if pending.missing = 1 then ⟨.char (Char.ofNat bits) :: progress.found, none⟩
      else ⟨progress.found, some ⟨pending.taken + 1, pending.missing - 1, 0x80, 0xbf, bits⟩⟩
    else .begin (.malformed pending.taken .badContinuation :: progress.found) byte

/-- All pieces, in order; a character cut off by the end of the input is malformed, with all of its
bytes as one stretch. -/
def Progress.finish (progress : Progress) : List Piece :=
  match progress.pending with
  | none => progress.found.reverse
  | some pending => (.malformed pending.taken .endOfInput :: progress.found).reverse

/-- The characters and the malformed stretches of a byte sequence. -/
def scan (bytes : List UInt8) : List Piece :=
  (bytes.foldl Progress.read ⟨[], none⟩).finish

/-- The text of a byte sequence, with one replacement character for each malformed stretch. -/
def decodeLossy (bytes : List UInt8) : List Char :=
  (scan bytes).map Piece.toChar

/-- The text of a well-formed byte sequence. One malformed stretch is enough for there to be none. -/
def decode? (bytes : List UInt8) : Option (List Char) :=
  (scan bytes).mapM Piece.char?

end SourceAudit.Text.Utf8
