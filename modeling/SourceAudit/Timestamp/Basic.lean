import SourceAudit.Decimal.Digits

/-!
# Timestamps

A timestamp is a date and a time of day, with its distance from universal time if it is known. It is
written with a `T` between date and time, with microseconds only where there are any, and with a `Z`
for universal time.
-/

namespace SourceAudit

open Decimal (natText paddedText)

/-- A leap year of the Gregorian calendar, which is counted back before its introduction as well. -/
def isLeapYear (year : Nat) : Bool :=
  year % 4 == 0 && (year % 100 != 0 || year % 400 == 0)

/-- The number of days of a month; no month has a number outside one to twelve. -/
def daysInMonth (year month : Nat) : Nat :=
  match month with
  | 1 | 3 | 5 | 7 | 8 | 10 | 12 => 31
  | 4 | 6 | 9 | 11 => 30
  | 2 => if isLeapYear year then 29 else 28
  | _ => 0

/-- A date of the Gregorian calendar, with the proof that the calendar has it. Years have four
digits at most and there is no year zero. -/
structure Date where
  year : Nat
  month : Nat
  day : Nat
  inCalendar : 1 ≤ year ∧ year ≤ 9999 ∧ 1 ≤ day ∧ day ≤ daysInMonth year month
  deriving DecidableEq

/-- The date with given parts, if the calendar has it. This is the only way in which readers make
dates. -/
def Date.ofParts? (year month day : Nat) : Option Date :=
  if inCalendar : 1 ≤ year ∧ year ≤ 9999 ∧ 1 ≤ day ∧ day ≤ daysInMonth year month then
    some ⟨year, month, day, inCalendar⟩
  else none

/-- A date as year, month and day, each filled up with zeros, so that all dates are written with ten
characters. -/
def Date.text (date : Date) : String :=
  paddedText 4 date.year ++ "-" ++ paddedText 2 date.month ++ "-" ++ paddedText 2 date.day

/-- A time of day to the microsecond. There are no leap seconds. -/
structure TimeOfDay where
  hour : Nat
  minute : Nat
  second : Nat
  microsecond : Nat
  inDay : hour < 24 ∧ minute < 60 ∧ second < 60 ∧ microsecond < 1000000
  deriving DecidableEq

namespace TimeOfDay

/-- The time with given parts, if the day has it. -/
def ofParts? (hour minute second microsecond : Nat) : Option TimeOfDay :=
  if inDay : hour < 24 ∧ minute < 60 ∧ second < 60 ∧ microsecond < 1000000 then
    some ⟨hour, minute, second, microsecond, inDay⟩
  else none

/-- The start of the day. -/
def midnight : TimeOfDay := ⟨0, 0, 0, 0, by decide⟩

/-- A time with six decimal places of the second, or none where they are all zero. Fewer than six
are never written. -/
def text (time : TimeOfDay) : String :=
  let whole := paddedText 2 time.hour ++ ":" ++ paddedText 2 time.minute ++ ":"
    ++ paddedText 2 time.second
  if time.microsecond = 0 then whole else whole ++ "." ++ paddedText 6 time.microsecond

end TimeOfDay

/-- A distance from universal time in minutes, less than a day in either direction. Seconds have no
place in it. -/
structure Offset where
  minutes : Int
  lessThanDay : minutes.natAbs < 1440
  deriving DecidableEq

namespace Offset

/-- Universal time. -/
def universal : Offset := ⟨0, by decide⟩

/-- The offset with a sign and a number of minutes. -/
def ofParts? (negative : Bool) (hours minutes : Nat) : Option Offset :=
  let size : Int := (hours * 60 + minutes : Nat)
  let signed := if negative then -size else size
  if lessThanDay : signed.natAbs < 1440 then some ⟨signed, lessThanDay⟩ else none

/-- An offset as a sign, hours and minutes; universal time has a letter. -/
def text (offset : Offset) : String :=
  if offset.minutes = 0 then "Z"
  else
    let size := offset.minutes.natAbs
    (if offset.minutes < 0 then "-" else "+") ++ paddedText 2 (size / 60) ++ ":"
      ++ paddedText 2 (size % 60)

end Offset

/-- A date and a time of day, perhaps with the distance from universal time. Without it, it is not
known which moment is meant. -/
structure Timestamp where
  date : Date
  time : TimeOfDay
  offset : Option Offset
  deriving DecidableEq

/-- A timestamp as it is written into a document. Two different timestamps are written differently,
also where they mean one moment. -/
def Timestamp.text (timestamp : Timestamp) : String :=
  timestamp.date.text ++ "T" ++ timestamp.time.text
    ++ match timestamp.offset with
      | none => ""
      | some offset => offset.text

end SourceAudit
