import SourceAudit.Decimal.Binary64
import SourceAudit.Text.Blank

/-!
# Numbers written as text

The numerals that a text field may hold for a number: `readInt` and `readFloat?` allow white space
around the numeral and underscores between its digits, `readFloat?` only one of the two. Only ASCII
digits count.
-/

namespace SourceAudit.Decimal

/-- The characters before the first one that is not a decimal digit, and the rest. -/
def spanDigits (text : List Char) : List Char × List Char :=
  text.span Char.isDigit

/-- The text without the Unicode white space around it. -/
def trimWhite (text : List Char) : List Char :=
  ((text.dropWhile Text.isWhiteSpace).reverse.dropWhile Text.isWhiteSpace).reverse

/-- Whether two underscores follow each other. -/
def hasDoubleUnderscore : List Char → Bool
  | '_' :: '_' :: _ => true
  | _ :: rest => hasDoubleUnderscore rest
  | [] => false

/-- The text without its underscores, none of which may stand at an end or beside another. They need
not stand between digits: what is left decides whether there is a numeral. -/
def dropUnderscores? (text : List Char) : Option (List Char) :=
  if text.head? = some '_' ∨ text.getLast? = some '_' ∨ hasDoubleUnderscore text then none
  else some (text.filter (· != '_'))

/-- The exponent after `e`, which has digits and may have a sign. It may be of any size, as numbers
far outside the range are known without being computed. -/
def readExponent? (text : List Char) : Option Int :=
  let (negative, digits) := match text with
    | '+' :: rest => (false, rest)
    | '-' :: rest => (true, rest)
    | rest => (false, rest)
  if digits.isEmpty || !digits.all Char.isDigit then none
  else
    let size : Int := ofDigits digits
    some (if negative then -size else size)

/-- A numeral without a sign: digits with at most one point among or beside them, and an exponent.
At least one digit must stand before or after the point. -/
def readUnsigned? (negative : Bool) (text : List Char) : Option Binary64 :=
  let (whole, rest) := spanDigits text
  let (fraction, rest) := match rest with
    | '.' :: later => spanDigits later
    | rest => ([], rest)
  if whole.isEmpty && fraction.isEmpty then none
  else
    let exponent? := match rest with
      | [] => some 0
      | c :: later => if c == 'e' || c == 'E' then readExponent? later else none
    exponent?.map fun exponent =>
      .ofDecimal negative (whole ++ fraction) (exponent - fraction.length)

/-- A numeral with an optional sign, or the name of infinity or of not-a-number in any case.
Not-a-number takes a sign as well, and loses it. -/
def readPlainFloat? (text : List Char) : Option Binary64 :=
  let (negative, rest) := match text with
    | '+' :: rest => (false, rest)
    | '-' :: rest => (true, rest)
    | rest => (false, rest)
  match String.ofList (rest.map Char.toLower) with
  | "inf" | "infinity" => some (.infinite negative)
  | "nan" => some .nan
  | _ => readUnsigned? negative rest

/-- The floating-point number that a text writes. A numeral may have white space around it or
underscores within it, but not both. -/
def readFloat? (text : List Char) : Option Binary64 :=
  (readPlainFloat? (trimWhite text)).or ((dropUnderscores? text).bind readPlainFloat?)

/-- Why a text gives no integer. A text that is too long is refused before its characters are looked
at. -/
inductive IntFault
  | malformed
  | tooLong
  deriving DecidableEq

/-- An integer as a data format writes it: no plus sign and no leading zeros. A minus sign may stand
before a zero. -/
def readPlainInt (text : List Char) : Except IntFault Int :=
  if text.length > maxNumeralLength then .error .tooLong
  else
    let (negative, digits) := match text with
      | '-' :: rest => (true, rest)
      | rest => (false, rest)
    if digits.isEmpty || !digits.all Char.isDigit then .error .malformed
    else if digits.head? = some '0' ∧ digits.length > 1 then .error .malformed
    else
      let size : Int := ofDigits digits
      .ok (if negative then -size else size)

/-- Remove leading zeros, with underscores among them; one zero stays where nothing but zeros or a
point follows. -/
def dropLeadingZeros? : List Char → Option (List Char)
  | [] => none
  | c :: rest =>
    if c == '-' || (c.isDigit && c != '0') then some (c :: rest)
    else if c == '0' then afterZero c rest
    else none
where
  /-- Past at least one zero; `last` is the character just read. -/
  afterZero (last : Char) : List Char → Option (List Char)
    | [] => some [last]
    | c :: rest =>
      if c == '0' || c == '_' then afterZero c rest
      else if c.isDigit then some (c :: rest)
      else if c == '.' then some (last :: c :: rest)
      else none

/-- Remove a point that only zeros follow, together with them. A point at the end goes as well; a
fraction that counts stays, so that no integer is read. -/
def dropZeroFraction (text : List Char) : List Char :=
  let (whole, rest) := text.span (· != '.')
  match rest with
  | '.' :: fraction => if fraction.all (· == '0') then whole else text
  | _ => text

/-- A looser integer text brought into the plain form: white space, a plus sign, leading zeros, a
zero fraction and underscores are removed. -/
def plainInt? (text : List Char) : Option (List Char) :=
  let body := match trimWhite text with
    | '+' :: '-' :: _ => []
    | '+' :: rest => rest
    | rest => rest
  (dropLeadingZeros? body).map fun digits =>
    let digits := dropZeroFraction digits
    (dropUnderscores? digits).getD digits

/-- The integer that a text writes. The plain form is tried first, and only a text that is malformed
in it is brought into the plain form and tried once more. -/
def readInt (text : List Char) : Except IntFault Int :=
  match readPlainInt text with
  | .error .malformed =>
    match plainInt? text with
    | some digits => readPlainInt digits
    | none => .error .malformed
  | outcome => outcome

end SourceAudit.Decimal
