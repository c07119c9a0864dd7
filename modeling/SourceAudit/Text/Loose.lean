import SourceAudit.Text.Piece

/-!
# Loose text

Numeric escapes and lenient decoders can leave a surrogate without its partner: one half of a pair of
sixteen-bit units, which is no character. A loose text is a Unicode text, and after it each such
surrogate with the Unicode text that follows. A string is a loose text without surrogates, and two loose
texts are equal when they have the same code points.

What only looks for characters sees a surrogate as it sees the replacement character, which is neither a
letter nor blank; `LooseText.shown` is the text with that character in place of each surrogate.
-/

namespace SourceAudit

/-- Whether a code point is a surrogate: half of a pair of 16-bit units. No character has such a
code point. -/
def isSurrogate (point : Nat) : Bool :=
  decide (0xd800 ≤ point) && decide (point < 0xe000)

/-- A surrogate that stands alone, with the proof that it is one. Two of them that would make up a
pair may follow each other. -/
structure Surrogate where
  point : Nat
  inRange : isSurrogate point = true
  deriving DecidableEq

/-- A text that may hold lone surrogates: a string, and after each surrogate another one. A text
without surrogates is just its first string. -/
structure LooseText where
  /-- The text before the first surrogate. -/
  head : String
  /-- Each surrogate, with the text up to the next one. -/
  tail : List (Surrogate × String)
  deriving DecidableEq, Inhabited

namespace LooseText

/-- A string as a loose text. -/
@[match_pattern]
abbrev unicode (text : String) : LooseText := ⟨text, []⟩

instance : Coe String LooseText := ⟨unicode⟩

/-- Whether a text holds no surrogate, so that it is a string. -/
def isUnicode (text : LooseText) : Bool :=
  text.tail.isEmpty

/-- The code points of a text, those of its surrogates among them. They tell everything about it, as
`points_inj` says. -/
def points (text : LooseText) : List Nat :=
  text.head.toList.map Char.toNat
    ++ text.tail.flatMap fun (surrogate, after) => surrogate.point :: after.toList.map Char.toNat

/-- Put a code point in front of a text that is given by its characters. -/
def addPoint (point : Nat) (text : List Char × List (Surrogate × List Char)) :
    List Char × List (Surrogate × List Char) :=
  if lone : isSurrogate point = true then ([], (⟨point, lone⟩, text.1) :: text.2)
  else (Char.ofNat point :: text.1, text.2)

/-- The text with given code points. Numbers that are no code points at all count as the null
character. -/
def ofPoints (points : List Nat) : LooseText :=
  let (head, tail) := points.foldr addPoint ([], [])
  ⟨String.ofList head, tail.map fun (surrogate, after) => (surrogate, String.ofList after)⟩

/-- The text with the replacement character in place of each surrogate. It has as many characters as
the text has code points. -/
def shown (text : LooseText) : String :=
  text.tail.foldl (fun before (_, after) => before ++ String.singleton Text.replacement ++ after)
    text.head

/-- Two texts, one after the other, where the first one is given by its parts. -/
def appendTo (head : String) : List (Surrogate × String) → LooseText → LooseText
  | [], second => ⟨head ++ second.head, second.tail⟩
  | (surrogate, after) :: rest, second =>
    let later := appendTo after rest second
    ⟨head, (surrogate, later.head) :: later.tail⟩

instance : Append LooseText where
  append first second := appendTo first.head first.tail second

/-- Change the text before, between and after the surrogates, which stay as they are. -/
def mapParts (change : String → String) (text : LooseText) : LooseText :=
  ⟨change text.head, text.tail.map fun (surrogate, after) => (surrogate, change after)⟩

/-- Whether a character stands in a text. -/
def holds (text : LooseText) (mark : Char) : Bool :=
  text.points.contains mark.toNat

/-- The text after the last place of a character, which is all of it where there is none. -/
def afterLast (mark : Char) (text : LooseText) : LooseText :=
  ofPoints (text.points.reverse.takeWhile (· != mark.toNat)).reverse

/-- The first code points of a text. -/
def take (count : Nat) (text : LooseText) : LooseText :=
  ofPoints (text.points.take count)

end LooseText

end SourceAudit
