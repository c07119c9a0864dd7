import SourceAudit.Text.Blank
import SourceAudit.Text.Word

/-!
# Hardcoded passwords

An assignment of a literal to a name that ends in "password": the name in any case, perhaps a type
annotation after a colon, an equals sign, and a value between quotes that need not be of one kind.
Blanks may stand between these parts. `search` finds the leftmost assignment; where one starts, its
end is determined.
-/

namespace SourceAudit.Password

open Text (isBlank isWord)

/-- The spellings of the letters of the name, letter by letter. The long s counts as an s, as it has
the same capital. -/
def nameLetters : List (List Char) :=
  [['p', 'P'], ['a', 'A'], ['s', 'S', 'ſ'], ['s', 'S', 'ſ'], ['w', 'W'], ['o', 'O'], ['r', 'R'],
    ['d', 'D']]

/-- The text after a word that spells the given letters. Nothing is asked of what comes before the
word or right after it. -/
def afterLetters? : List (List Char) → List Char → Option (List Char)
  | [], text => some text
  | _ :: _, [] => none
  | spellings :: letters, c :: rest =>
    if spellings.contains c then afterLetters? letters rest else none

/-- A character of a type annotation. -/
def isAnnotation (c : Char) : Bool :=
  isWord c || ".<>[]| ".toList.contains c

/-- Either quote. -/
def isQuote (c : Char) : Bool :=
  c == '\'' || c == '"'

/-- Whether a text is an annotation with blanks around it. An annotation may consist of spaces, which
are blanks as well, so a text of blanks only is one when it has a space. -/
def isBlankAnnotation (text : List Char) : Bool :=
  match text.dropWhile isBlank with
  | [] => text.contains ' '
  | c :: rest => isAnnotation c && (rest.dropWhile isAnnotation).all isBlank

/-- The text after a value between quotes, with blanks before it. The first quote of either kind
ends the value, which may be empty. -/
def afterValue? (text : List Char) : Option (List Char) :=
  match text.dropWhile isBlank with
  | [] => none
  | c :: rest =>
    if isQuote c then
      match rest.dropWhile (!isQuote ·) with
      | [] => none
      | _ :: after => some after
    else none

/-- The text after the rest of an assignment whose name has been read. Only blanks and an annotation
may stand between a colon and the equals sign, which is neither. -/
def afterName? (text : List Char) : Option (List Char) :=
  match text.dropWhile isBlank with
  | '=' :: rest => afterValue? rest
  | ':' :: rest =>
    let (between, rest) := rest.span fun c => isBlank c || isAnnotation c
    match rest with
    | '=' :: value => if isBlankAnnotation between then afterValue? value else none
    | _ => none
  | _ => none

/-- The text after an assignment at the start of a text. There is at most one way to read one, so
nothing has to be tried again. -/
def afterAssignment? (text : List Char) : Option (List Char) :=
  (afterLetters? nameLetters text).bind afterName?

/-- Where an assignment starts and where it ends, in characters from the start of the text. The end
is after the closing quote. -/
structure Span where
  start : Nat
  stop : Nat
  deriving DecidableEq

/-- The leftmost assignment in the rest of a text, of which `offset` characters have been passed. -/
def searchFrom (offset : Nat) : List Char → Option Span
  | [] => none
  | c :: rest =>
    match afterAssignment? (c :: rest) with
    | some after => some ⟨offset, offset + ((c :: rest).length - after.length)⟩
    | none => searchFrom (offset + 1) rest

/-- The leftmost assignment in a text: the places are tried from left to right, and the first one
where an assignment starts is taken. -/
def search (text : List Char) : Option Span :=
  searchFrom 0 text

end SourceAudit.Password
