import SourceAudit.Text.CodeRange

/-!
# Blank characters

Two sets are in use. `isBlank` also takes the four information separators `U+001C` to `U+001F`; it
decides what a scan, a trimmed name and an empty reply see as blank. `isWhiteSpace` is the Unicode
property White_Space; it decides what may surround a number written as text. The first set is the
larger one by its definition.
-/

namespace SourceAudit.Text

/-- The characters of the Unicode property White_Space. -/
def whiteSpaceRanges : CodeRanges :=
  [(0x09, 0x0d), (0x20, 0x20), (0x85, 0x85), (0xa0, 0xa0), (0x1680, 0x1680), (0x2000, 0x200a),
    (0x2028, 0x2029), (0x202f, 0x202f), (0x205f, 0x205f), (0x3000, 0x3000)]

/-- A character of the Unicode property White_Space. -/
def isWhiteSpace (c : Char) : Bool :=
  whiteSpaceRanges.has c.toNat

/-- White space, or one of the information separators `U+001C` to `U+001F`. -/
def isBlank (c : Char) : Bool :=
  isWhiteSpace c || (decide (0x1c ≤ c.toNat) && decide (c.toNat ≤ 0x1f))

/-- The text from its first character that is not blank. -/
def trimStart (text : List Char) : List Char :=
  text.dropWhile isBlank

/-- The text up to its last character that is not blank. -/
def trimEnd (text : List Char) : List Char :=
  (text.reverse.dropWhile isBlank).reverse

/-- The text without the blanks around it. Blanks inside stay, line feeds among them. -/
def trim (text : List Char) : List Char :=
  trimEnd (trimStart text)

/-- Whether a text holds blanks only. The empty text does. -/
def isAllBlank (text : List Char) : Bool :=
  text.all isBlank

end SourceAudit.Text
