import SourceAudit.Decimal.Numeral
import SourceAudit.Timestamp.Basic
import SourceAudit.Validation.Basic

/-!
# Reading timestamps

A timestamp is written as a date and a time, as a date alone, or as a number of seconds since the
start of 1970. Numbers beyond `watershed` count milliseconds.
-/

namespace SourceAudit

open Decimal (Binary64)

/-- Two decimal digits at the start of a text, and the rest. -/
def readTwo? : List Char → Option (Nat × List Char)
  | a :: b :: rest =>
    if a.isDigit && b.isDigit then some (Decimal.ofDigits [a, b], rest) else none
  | _ => none

/-- A date at the start of a text, and the rest. -/
def Date.read? : List Char → Option (Date × List Char)
  | y₁ :: y₂ :: y₃ :: y₄ :: '-' :: m₁ :: m₂ :: '-' :: d₁ :: d₂ :: rest =>
    let year := [y₁, y₂, y₃, y₄]
    let month := [m₁, m₂]
    let day := [d₁, d₂]
    if (year ++ month ++ day).all Char.isDigit then
      (Date.ofParts? (Decimal.ofDigits year) (Decimal.ofDigits month) (Decimal.ofDigits day)).map
        (·, rest)
    else none
  | _ => none

namespace TimeOfDay

/-- The first six decimal places as microseconds. Fewer places count as if zeros followed them. -/
def microsecondsOf (digits : List Char) : Nat :=
  let kept := digits.take 6
  Decimal.ofDigits kept * Nat.pow 10 (6 - kept.length)

/-- The decimal places of a second after a point or a comma, as microseconds; later places are
dropped. A point without digits is an error. -/
def readFraction? : List Char → Option (Nat × List Char)
  | c :: later =>
    if c == '.' || c == ',' then
      let (digits, rest) := Decimal.spanDigits later
      if digits.isEmpty then none else some (microsecondsOf digits, rest)
    else some (0, c :: later)
  | [] => some (0, [])

/-- The seconds after a colon with their decimal places; a time may end with its minutes, and then
has no seconds. -/
def readSeconds? : List Char → Option (Nat × Nat × List Char)
  | ':' :: later => do
    let (second, rest) ← readTwo? later
    let (microsecond, rest) ← readFraction? rest
    some (second, microsecond, rest)
  | text => some (0, 0, text)

/-- A time of day at the start of a text, and the rest. Every part has two digits, and an hour alone
is no time. -/
def read? (text : List Char) : Option (TimeOfDay × List Char) := do
  let (hour, rest) ← readTwo? text
  match rest with
  | ':' :: rest =>
    let (minute, rest) ← readTwo? rest
    let (second, microsecond, rest) ← readSeconds? rest
    (ofParts? hour minute second microsecond).map (·, rest)
  | _ => none

end TimeOfDay

namespace Offset

/-- The hours and minutes of an offset, with or without a colon; nothing may follow. -/
def readDigits? (negative : Bool) (text : List Char) : Option Offset := do
  let (hours, rest) ← readTwo? text
  let rest := match rest with
    | ':' :: later => later
    | later => later
  let (minutes, rest) ← readTwo? rest
  if rest.isEmpty && decide (minutes < 60) then ofParts? negative hours minutes else none

/-- The offset that ends a timestamp. The minus sign may be the typographic one. -/
def read? : List Char → Option (Option Offset)
  | [] => some none
  | c :: rest =>
    if c == 'Z' || c == 'z' then if rest.isEmpty then some (some universal) else none
    else if c == '+' then (readDigits? false rest).map some
    else if c == '-' || c == '−' then (readDigits? true rest).map some
    else none

end Offset

namespace Timestamp

/-- The seconds of a day. -/
def secondsPerDay : Int := 86400

/-- The date a number of days after the start of 1970, if the calendar has it. Years are counted
from March on, in cycles of 400. -/
def dateOfDays? (days : Int) : Option Date :=
  let shifted := days + 719468
  let cycle := shifted.fdiv 146097
  let dayOfCycle := (shifted.fmod 146097).toNat
  let yearOfCycle :=
    (dayOfCycle - dayOfCycle / 1460 + dayOfCycle / 36524 - dayOfCycle / 146096) / 365
  let dayOfYear := dayOfCycle - (365 * yearOfCycle + yearOfCycle / 4 - yearOfCycle / 100)
  let fromMarch := (5 * dayOfYear + 2) / 153
  let day := dayOfYear - (153 * fromMarch + 2) / 5 + 1
  let month := if fromMarch < 10 then fromMarch + 3 else fromMarch - 9
  let year := (yearOfCycle : Int) + cycle * 400 + (if month ≤ 2 then 1 else 0)
  if year < 0 then none else Date.ofParts? year.toNat month day

/-- The greatest number that counts seconds. It lies some six hundred years after 1970; as
milliseconds it would be less than a year. -/
def watershed : Nat := 20000000000

/-- The universal time a number of seconds and microseconds after the start of 1970, or before it
for a negative number. Beyond the watershed the number counts milliseconds. -/
def ofUnix? (count : Int) (microseconds : Nat) : Option Timestamp :=
  let (seconds, extra) :=
    if count.natAbs ≤ watershed then (count, 0)
    else (count.fdiv 1000, (count.fmod 1000).toNat * 1000)
  let total := microseconds + extra
  let seconds := seconds + (total / 1000000 : Nat)
  let secondOfDay := (seconds.fmod secondsPerDay).toNat
  match dateOfDays? (seconds.fdiv secondsPerDay),
    TimeOfDay.ofParts? (secondOfDay / 3600) (secondOfDay / 60 % 60) (secondOfDay % 60)
      (total % 1000000) with
  | some date, some time => some ⟨date, time, some .universal⟩
  | _, _ => none

/-- The microseconds of a part `num / den` of a second. The product is a floating-point number itself,
and is rounded to a whole one only then, a half upwards. -/
def microsecondsIn (num den : Nat) : Nat :=
  match Binary64.ofRatio false (num * 1000000) den with
  | .finite _ mantissa exponent =>
    let (num, den) := Binary64.scaleDown mantissa 1 (-exponent)
    (2 * num + den) / (2 * den)
  | _ => 0

/-- The universal time a floating-point number of seconds after the start of 1970. The decimal places
are taken without their sign. -/
def ofFloat? : Binary64 → Option Timestamp
  | .finite negative mantissa exponent =>
    let (num, den) := Binary64.scaleDown mantissa 1 (-exponent)
    let whole : Int := (num / den : Nat)
    let rest := num % den
    let count := if negative then if rest = 0 then -whole else -whole - 1 else whole
    ofUnix? count (microsecondsIn rest den)
  | _ => none

/-- A date and a time with one of four separators between them. An offset may follow, but nothing
after it. -/
def readFull? (text : List Char) : Option Timestamp := do
  let (date, rest) ← Date.read? text
  match rest with
  | separator :: rest =>
    if ['T', 't', ' ', '_'].contains separator then
      let (time, rest) ← TimeOfDay.read? rest
      let offset ← Offset.read? rest
      some ⟨date, time, offset⟩
    else none
  | [] => none

/-- A number of seconds, perhaps with decimal places. A digit is needed before the point, but not
after it. -/
def readNumber? (text : List Char) : Option Timestamp :=
  let (negative, unsigned) := match text with
    | '+' :: rest => (false, rest)
    | '-' :: rest => (true, rest)
    | rest => (false, rest)
  let (whole, rest) := Decimal.spanDigits unsigned
  if whole.isEmpty then none
  else match rest with
    | [] =>
      let size : Int := Decimal.ofDigits whole
      ofUnix? (if negative then -size else size) 0
    | '.' :: fraction =>
      if fraction.all Char.isDigit then
        ofFloat? (.ofDecimal negative (whole ++ fraction) (-fraction.length))
      else none
    | _ => none

/-- A date alone stands for its start, at no known distance from universal time. -/
def readDate? (text : List Char) : Option Timestamp := do
  let (date, rest) ← Date.read? text
  if rest.isEmpty then some ⟨date, .midnight, none⟩ else none

/-- The timestamp that a text writes. The three forms do not overlap, so that their order does not
matter. -/
def read? (text : List Char) : Option Timestamp :=
  (readFull? text).or ((readNumber? text).or (readDate? text))

open Validation in
/-- The timestamp that a value writes: a text in one of the three forms, or a number. A truth value
is no number here. -/
def check : Json → Checked Timestamp
  | .str (.unicode value) => match read? value.toList with
    | some timestamp => .valid timestamp
    | none => .fail .datetimeFromDateParsing
  | .str _ => .fail .stringUnicode
  | .int count =>
    if Nat.pow 2 63 ≤ count.natAbs then .fail .datetimeType
    else match ofUnix? count 0 with
      | some timestamp => .valid timestamp
      | none => .fail .datetimeParsing
  | .float count => match ofFloat? count with
    | some timestamp => .valid timestamp
    | none => .fail .datetimeParsing
  | _ => .fail .datetimeType

end Timestamp

end SourceAudit
