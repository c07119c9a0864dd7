/-!
# Decimal digits

Whole numbers as decimal text and back.
-/

namespace SourceAudit.Decimal

/-- The value of a decimal digit. -/
def digitValue (c : Char) : Nat :=
  c.toNat - '0'.toNat

/-- The number that a list of decimal digits writes, most significant first. Leading zeros change
nothing, and no digits write zero. -/
def ofDigits (digits : List Char) : Nat :=
  digits.foldl (fun value c => value * 10 + digitValue c) 0

/-- A natural number in decimal. -/
def natText (n : Nat) : String :=
  String.ofList (Nat.toDigits 10 n)

/-- An integer in decimal, with a minus sign when it is negative. -/
def intText : Int → String
  | .ofNat n => natText n
  | .negSucc n => "-" ++ natText (n + 1)

/-- The greatest number of characters of a numeral that is turned into an integer, or of digits that
one is turned into. -/
def maxNumeralLength : Nat := 4300

/-- Whether a number is short enough to be written in decimal. A longer one is a value like any
other until it is to be shown. -/
def isWritable (n : Nat) : Bool :=
  decide ((Nat.toDigits 10 n).length ≤ maxNumeralLength)

/-- The wording of the error that a longer number is refused with. -/
def tooLongMessage : String :=
  "Exceeds the limit (" ++ natText maxNumeralLength
    ++ " digits) for integer string conversion; "
    ++ "use sys.set_int_max_str_digits() to increase the limit"

/-- A natural number in decimal, filled up with zeros to a width. A number that is longer is written
in full. -/
def paddedText (width n : Nat) : String :=
  let digits := Nat.toDigits 10 n
  String.ofList (List.replicate (width - digits.length) '0' ++ digits)

end SourceAudit.Decimal
