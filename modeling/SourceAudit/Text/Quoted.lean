import SourceAudit.Text.Hexadecimal
import SourceAudit.Text.Printable

/-!
# Quoted text

Text as it is shown inside a message: between quotes, with escapes for what is not printable. Single
quotes are used unless the text holds a single quote and no double quote.
-/

namespace SourceAudit.Text

/-- The shortest numeric escape that can hold a code point. -/
def escapePoint (point : Nat) : List Char :=
  if point ≤ 0xff then '\\' :: 'x' :: hexDigits 2 point
  else if point ≤ 0xffff then '\\' :: 'u' :: hexDigits 4 point
  else '\\' :: 'U' :: hexDigits 8 point

/-- The quote that encloses a text: the one that needs fewer escapes, and the single one where that
does not decide. -/
def quoteFor (points : List Nat) : Char :=
  if points.contains '\''.toNat && !points.contains '"'.toNat then '"' else '\''

/-- How one code point shows between the given quotes. -/
def quotedPoint (quote : Char) (point : Nat) : List Char :=
  if point = quote.toNat || point = '\\'.toNat then ['\\', Char.ofNat point]
  else if point = '\n'.toNat then ['\\', 'n']
  else if point = '\r'.toNat then ['\\', 'r']
  else if point = '\t'.toNat then ['\\', 't']
  else if isPrintable point then [Char.ofNat point]
  else escapePoint point

/-- Code points as quoted text. A surrogate is never printable, so it shows as its escape. -/
def quotePoints (points : List Nat) : List Char :=
  let quote := quoteFor points
  quote :: (points.flatMap (quotedPoint quote) ++ [quote])

/-- A text with its quotes and escapes. Characters beyond ASCII show as themselves where they are
printable. -/
def quote (text : String) : String :=
  String.ofList (quotePoints (text.toList.map Char.toNat))

end SourceAudit.Text
