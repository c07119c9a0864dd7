import SourceAudit.Text.Blank
import SourceAudit.Text.Loose
import SourceAudit.Text.Word

/-!
# Fenced replies

A reply that is one fenced block, blanks around it aside, stands for the content of the block. The
opening line may have a tag. The closing fence is the last one, so fences inside the block are part
of its content, and one line feed before the closing fence is not.
-/

namespace SourceAudit.Fence

open Text (isBlank isWord)

/-- A character of the tag that may follow an opening fence. Names of languages are made of these; a
tag with any other character makes the line no opening one. -/
def isTag (c : Char) : Bool :=
  isWord c || c == '+' || c == '-'

/-- What follows the opening line: blanks, a fence, a tag, spaces and tabs, and a line feed. No
backtick can be part of a tag, so a longer fence opens nothing. -/
def afterOpening? (text : List Char) : Option (List Char) :=
  match text.dropWhile isBlank with
  | '\x60' :: '\x60' :: '\x60' :: rest =>
    match (rest.dropWhile isTag).dropWhile fun c => c == ' ' || c == '\t' with
    | '\n' :: content => some content
    | _ => none
  | _ => none

/-- What precedes the closing fence and one line feed before it; blanks may follow the fence. The
fence is looked for from the end, which is why it is the last one. -/
def beforeClosing? (content : List Char) : Option (List Char) :=
  match content.reverse.dropWhile isBlank with
  | '\x60' :: '\x60' :: '\x60' :: before =>
    match before with
    | '\n' :: rest => some rest.reverse
    | rest => some rest.reverse
  | _ => none

/-- The content of a text that is one fenced block, and any other text as it is. -/
def strip (text : List Char) : List Char :=
  match (afterOpening? text).bind beforeClosing? with
  | some content => content
  | none => text

/-- The content of a text that is one fenced block, and any other text as it is. -/
def stripped (text : String) : String :=
  String.ofList (strip text.toList)

/-- The content of a loose text that is one fenced block, and any other one as it is. A surrogate is
neither blank nor part of a tag, so the block is found in the text as it is shown; the code points at its
place are then taken from the text itself. -/
def strippedLoose (text : LooseText) : LooseText :=
  let shown := text.shown.toList
  match afterOpening? shown with
  | none => text
  | some content =>
    match beforeClosing? content with
    | none => text
    | some body =>
      .ofPoints ((text.points.drop (shown.length - content.length)).take body.length)

end SourceAudit.Fence
