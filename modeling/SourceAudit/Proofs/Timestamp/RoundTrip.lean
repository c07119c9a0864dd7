import SourceAudit.Timestamp.Reading
import SourceAudit.Proofs.Decimal.Digits
import Mathlib.Data.List.Basic

/-!
# Timestamps read back

The text of a timestamp is read as the timestamp: date, time of day and offset each take their part
of the text and leave the rest (`Timestamp.read?_text`).
-/

namespace SourceAudit

open Decimal (paddedText)

/-- A number of two digits, digit by digit. -/
theorem exists_two_digits {n : Nat} (fits : n < 100) :
    ∃ a b, (paddedText 2 n).toList = [a, b] ∧ a.isDigit = true ∧ b.isDigit = true ∧
      Decimal.ofDigits [a, b] = n := by
  have length := Decimal.length_paddedText (show 0 < 2 by decide) fits
  have value := Decimal.ofDigits_paddedText 2 n
  have digit := Decimal.isDigit_paddedText 2 n
  obtain ⟨a, b, split⟩ := List.length_eq_two.mp length
  rw [split] at digit value
  exact ⟨a, b, split, digit a (by simp), digit b (by simp), value⟩

/-- A number of four digits, digit by digit. -/
theorem exists_four_digits {n : Nat} (fits : n < 10000) :
    ∃ a b c d, (paddedText 4 n).toList = [a, b, c, d] ∧
      (∀ digit ∈ [a, b, c, d], digit.isDigit = true) ∧ Decimal.ofDigits [a, b, c, d] = n := by
  have length := Decimal.length_paddedText (show 0 < 4 by decide) fits
  have value := Decimal.ofDigits_paddedText 4 n
  have digit := Decimal.isDigit_paddedText 4 n
  obtain ⟨a, b, c, d, split⟩ := List.length_eq_four.mp length
  rw [split] at digit value
  exact ⟨a, b, c, d, split, digit, value⟩

/-- A number of two digits is read, and what follows is left. -/
theorem readTwo?_paddedText {n : Nat} (fits : n < 100) (rest : List Char) :
    readTwo? ((paddedText 2 n).toList ++ rest) = some (n, rest) := by
  obtain ⟨a, b, split, first, second, value⟩ := exists_two_digits fits
  rw [split, List.cons_append, List.singleton_append, readTwo?, first, second, value]
  rfl

theorem daysInMonth_le (year month : Nat) : daysInMonth year month ≤ 31 := by
  unfold daysInMonth
  split
  case h_12 => split <;> decide
  all_goals decide

theorem month_le_of_daysInMonth_pos {year month : Nat} (days : 0 < daysInMonth year month) :
    month ≤ 12 := by
  unfold daysInMonth at days
  split at days
  all_goals omega

/-- A date is read, and what follows is left. -/
theorem Date.read?_text (date : Date) (rest : List Char) :
    Date.read? (date.text.toList ++ rest) = some (date, rest) := by
  obtain ⟨year, month, day, inCalendar⟩ := date
  have days := daysInMonth_le year month
  have months := month_le_of_daysInMonth_pos (show 0 < daysInMonth year month by omega)
  obtain ⟨y₁, y₂, y₃, y₄, yearText, yearDigits, yearValue⟩ :=
    exists_four_digits (show year < 10000 by omega)
  obtain ⟨m₁, m₂, monthText, monthFirst, monthSecond, monthValue⟩ :=
    exists_two_digits (show month < 100 by omega)
  obtain ⟨d₁, d₂, dayText, dayFirst, daySecond, dayValue⟩ :=
    exists_two_digits (show day < 100 by omega)
  have written : Date.text ⟨year, month, day, inCalendar⟩ =
      paddedText 4 year ++ "-" ++ paddedText 2 month ++ "-" ++ paddedText 2 day := rfl
  have split : (Date.text ⟨year, month, day, inCalendar⟩).toList ++ rest =
      y₁ :: y₂ :: y₃ :: y₄ :: '-' :: m₁ :: m₂ :: '-' :: d₁ :: d₂ :: rest := by
    simp [written, yearText, monthText, dayText]
  have allDigits : ([y₁, y₂, y₃, y₄] ++ [m₁, m₂] ++ [d₁, d₂]).all Char.isDigit = true := by
    simp at yearDigits
    simp [yearDigits, monthFirst, monthSecond, dayFirst, daySecond]
  rw [split, Date.read?]
  simp only [allDigits, if_true, yearValue, monthValue, dayValue, Date.ofParts?, dif_pos inCalendar,
    Option.map_some]

namespace TimeOfDay

/-- Six decimal places are read as microseconds, where no digit follows them. -/
theorem readFraction?_paddedText {microsecond : Nat} (fits : microsecond < 1000000)
    {rest : List Char} (ends : ∀ c, rest.head? = some c → c.isDigit = false) :
    readFraction? ('.' :: ((paddedText 6 microsecond).toList ++ rest)) = some (microsecond, rest) := by
  have length := Decimal.length_paddedText (show 0 < 6 by decide) fits
  have spanned := Decimal.spanDigits_append (Decimal.isDigit_paddedText 6 microsecond) ends
  have present : (paddedText 6 microsecond).toList.isEmpty = false := by
    rw [List.isEmpty_eq_false_iff]
    intro empty
    rw [empty] at length
    cases length
  have value : microsecondsOf (paddedText 6 microsecond).toList = microsecond := by
    rw [microsecondsOf, List.take_of_length_le (Nat.le_of_eq length), length,
      Decimal.ofDigits_paddedText]
    simp
  rw [readFraction?, spanned]
  simp [present, value]

/-- A time of day is read, where what follows goes on neither with a digit nor with a point, a comma
or a colon. -/
theorem read?_text (time : TimeOfDay) {rest : List Char}
    (ends : ∀ c, rest.head? = some c → c.isDigit = false ∧ c ≠ '.' ∧ c ≠ ',') :
    TimeOfDay.read? (time.text.toList ++ rest) = some (time, rest) := by
  obtain ⟨hour, minute, second, microsecond, inDay⟩ := time
  have hourRead := readTwo?_paddedText (show hour < 100 by omega)
  have minuteRead := readTwo?_paddedText (show minute < 100 by omega)
  have secondRead := readTwo?_paddedText (show second < 100 by omega)
  -- The decimal places are written only where there are any.
  have fractionRead : ∃ fraction, (TimeOfDay.text ⟨hour, minute, second, microsecond, inDay⟩).toList =
      (paddedText 2 hour).toList ++ ':' :: ((paddedText 2 minute).toList ++
        ':' :: ((paddedText 2 second).toList ++ fraction)) ∧
      readFraction? (fraction ++ rest) = some (microsecond, rest) := by
    by_cases whole : microsecond = 0
    · refine ⟨[], by simp [TimeOfDay.text, whole], ?_⟩
      rw [List.nil_append, whole]
      cases rest with
      | nil => rfl
      | cons c rest =>
          obtain ⟨-, noPoint, noComma⟩ := ends c rfl
          simp [readFraction?, noPoint, noComma]
    · refine ⟨'.' :: (paddedText 6 microsecond).toList, by simp [TimeOfDay.text, whole], ?_⟩
      exact readFraction?_paddedText inDay.2.2.2 fun c first => (ends c first).1
  obtain ⟨fraction, split, fractionRead⟩ := fractionRead
  rw [split, List.append_assoc, List.cons_append, List.append_assoc, List.cons_append,
    List.append_assoc, TimeOfDay.read?, hourRead]
  simp only [Option.bind_eq_bind, Option.bind_some, minuteRead, readSeconds?, secondRead,
    fractionRead, ofParts?, dif_pos inDay, Option.map_some]

end TimeOfDay

/-- An offset is read where it ends the text. -/
theorem Offset.read?_text (offset : Offset) :
    Offset.read? offset.text.toList = some (some offset) := by
  obtain ⟨minutes, lessThanDay⟩ := offset
  have hourRead := readTwo?_paddedText (show minutes.natAbs / 60 < 100 by omega)
  have minuteRead := readTwo?_paddedText (show minutes.natAbs % 60 < 100 by omega)
  have digitsRead (negative : Bool)
      (same : (if negative then -((minutes.natAbs : Nat) : Int) else (minutes.natAbs : Nat)) = minutes) :
      readDigits? negative ((paddedText 2 (minutes.natAbs / 60)).toList ++
        ':' :: ((paddedText 2 (minutes.natAbs % 60)).toList ++ [])) =
        some ⟨minutes, lessThanDay⟩ := by
    have parts : minutes.natAbs / 60 * 60 + minutes.natAbs % 60 = minutes.natAbs := by omega
    have below : minutes.natAbs % 60 < 60 := Nat.mod_lt _ (by decide)
    rw [readDigits?, hourRead]
    simp only [Option.bind_eq_bind, Option.bind_some, minuteRead, List.isEmpty_nil, below,
      decide_true, Bool.and_self, if_true, ofParts?, parts, same, dif_pos lessThanDay]
  by_cases zero : minutes = 0
  · subst zero
    simp [Offset.text, Offset.read?, Offset.universal]
  · have written : (Offset.text ⟨minutes, lessThanDay⟩).toList =
        (if minutes < 0 then '-' else '+') :: ((paddedText 2 (minutes.natAbs / 60)).toList ++
          ':' :: ((paddedText 2 (minutes.natAbs % 60)).toList ++ [])) := by
      by_cases negative : minutes < 0
      · simp [Offset.text, zero, negative]
      · simp [Offset.text, zero, negative]
    rw [written]
    by_cases negative : minutes < 0
    · have read := digitsRead true (by simp only [if_true]; omega)
      rw [if_pos negative, Offset.read?, read]
      rfl
    · have read := digitsRead false (by simp only [Bool.false_eq_true, if_false]; omega)
      rw [if_neg negative, Offset.read?, read]
      rfl

/-- The offset at the end of a timestamp, if there is one. -/
def Timestamp.offsetText (timestamp : Timestamp) : String :=
  match timestamp.offset with
  | none => ""
  | some offset => offset.text

/-- What follows the time of day starts with a sign or a letter. -/
theorem Offset.head?_text (offset : Offset) :
    ∃ c ∈ ['Z', '-', '+'], offset.text.toList.head? = some c := by
  obtain ⟨minutes, lessThanDay⟩ := offset
  by_cases zero : minutes = 0
  · exact ⟨'Z', by decide, by simp [Offset.text, zero]⟩
  · by_cases negative : minutes < 0
    · exact ⟨'-', by decide, by simp [Offset.text, zero, negative]⟩
    · exact ⟨'+', by decide, by simp [Offset.text, zero, negative]⟩

/-- **A timestamp is read as it is written.** -/
theorem Timestamp.read?_text (timestamp : Timestamp) :
    Timestamp.read? timestamp.text.toList = some timestamp := by
  obtain ⟨date, time, offset⟩ := timestamp
  have offsetRead : Offset.read? (Timestamp.offsetText ⟨date, time, offset⟩).toList = some offset := by
    cases offset with
    | none => rfl
    | some offset => exact Offset.read?_text offset
  have ends : ∀ c, (Timestamp.offsetText ⟨date, time, offset⟩).toList.head? = some c →
      c.isDigit = false ∧ c ≠ '.' ∧ c ≠ ',' := by
    intro c first
    cases offset with
    | none => cases first
    | some offset =>
        obtain ⟨letter, listed, head⟩ := Offset.head?_text offset
        have same : letter = c := Option.some.inj (head.symm.trans first)
        have letters : ∀ c ∈ ['Z', '-', '+'], c.isDigit = false ∧ c ≠ '.' ∧ c ≠ ',' := by simp
        exact letters c (same ▸ listed)
  have split : (Timestamp.text ⟨date, time, offset⟩).toList =
      date.text.toList ++ 'T' :: (time.text.toList ++
        (Timestamp.offsetText ⟨date, time, offset⟩).toList) := by
    simp only [Timestamp.text, String.toList_append, List.append_assoc]
    rfl
  have full : readFull? (Timestamp.text ⟨date, time, offset⟩).toList = some ⟨date, time, offset⟩ := by
    rw [split, readFull?, Date.read?_text]
    simp only [Option.bind_eq_bind, Option.bind_some]
    rw [TimeOfDay.read?_text time ends]
    simp only [Option.bind_some, offsetRead]
    rfl
  rw [Timestamp.read?, full, Option.some_or]

end SourceAudit
