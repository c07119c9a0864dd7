/-!
# Pieces of encoded text

A decoder reads bytes as a sequence of pieces: characters, and malformed stretches that no character
can be read from. What a reader makes of a malformed stretch is its own decision.
-/

namespace SourceAudit.Text

/-- Why a stretch of bytes is no character. Which defects there are depends on the encoding. -/
inductive Defect
  | badStart
  | badContinuation
  | endOfInput
  | truncated
  | loneSurrogate
  | outOfRange
  deriving DecidableEq

/-- What a decoder finds: a character, or a malformed stretch with its length in bytes. The lengths
tell where in the bytes each piece stands. -/
inductive Piece
  | char (c : Char)
  | malformed (length : Nat) (defect : Defect)
  deriving DecidableEq

/-- The character that stands for what cannot be decoded. -/
def replacement : Char := Char.ofNat 0xfffd

/-- A piece as text, with the replacement character for a malformed stretch. -/
def Piece.toChar : Piece → Char
  | .char c => c
  | .malformed .. => replacement

/-- A piece that is a character. -/
def Piece.char? : Piece → Option Char
  | .char c => some c
  | .malformed .. => none

end SourceAudit.Text
