import SourceAudit.Json.Layout
import SourceAudit.Json.Parser
import SourceAudit.Proofs.Decimal.Digits

/-!
# Whole numbers read back

The digits of a whole number are read as the number, where what follows them does not go on with a
part of a number (`readScalar_intText`). And no whole number that is read is too long to be written
again (`number_of_readNumber`).
-/

namespace SourceAudit.Json

variable {rest : List Char}

/-- A text that does not go on with a part of a number, so that a number before it is read to its
end and no further. -/
def EndsNumber (rest : List Char) : Prop :=
  ∀ c, rest.head? = some c → c.isDigit = false ∧ c ≠ '.' ∧ c ≠ 'e' ∧ c ≠ 'E'

theorem endsNumber_nil : EndsNumber [] := by
  intro c first
  cases first

theorem endsNumber_cons {c : Char} (other : c.isDigit = false ∧ c ≠ '.' ∧ c ≠ 'e' ∧ c ≠ 'E') :
    EndsNumber (c :: rest) := by
  intro first same
  cases same
  exact other

theorem readWhole_toDigits (n : Nat) (ends : EndsNumber rest) :
    readWhole (Nat.toDigits 10 n ++ rest) = (Nat.toDigits 10 n, rest) := by
  by_cases zero : n = 0
  · rw [zero, Nat.toDigits_zero]
    rfl
  · have noZero := Decimal.head?_toDigits zero
    have spanned := Decimal.spanDigits_append (Decimal.isDigit_toDigits n) fun c first =>
      (ends c first).1
    obtain ⟨first, tail, split, -⟩ := Decimal.exists_toDigits_cons n
    rw [split] at spanned noZero ⊢
    rw [readWhole, spanned]
    intro digits same
    injection same with same
    exact noZero (congrArg some same)

theorem readFraction_endsNumber (ends : EndsNumber rest) : readFraction rest = ([], rest) := by
  cases rest with
  | nil => rfl
  | cons c tail =>
      have noPoint := (ends c rfl).2.1
      unfold readFraction
      split
      next same =>
        injection same with same
        exact (noPoint same).elim
      next => rfl

theorem readExponent_endsNumber (ends : EndsNumber rest) : readExponent rest = (none, rest) := by
  cases rest with
  | nil => rfl
  | cons c tail =>
      obtain ⟨-, -, small, large⟩ := ends c rfl
      simp [readExponent, small, large]

/-- Digits that no other part of a number follows are read as a whole number. -/
theorem readNumber_toDigits {n : Nat} (short : Decimal.isWritable n = true) (ends : EndsNumber rest) :
    readNumber (Nat.toDigits 10 n ++ rest) = .ok (.int n, rest) ∧
      readNumber ('-' :: (Nat.toDigits 10 n ++ rest)) = .ok (.int (-n), rest) := by
  have fits : ¬ (Nat.toDigits 10 n).length > Decimal.maxNumeralLength := by
    rw [Decimal.isWritable, decide_eq_true_eq] at short
    exact Nat.not_lt.mpr short
  have digits := Decimal.ofDigits_toDigits n
  have whole := readWhole_toDigits n ends
  have fraction := readFraction_endsNumber ends
  have exponent := readExponent_endsNumber ends
  obtain ⟨first, tail, split, digit⟩ := Decimal.exists_toDigits_cons n
  have unsigned : first ≠ '-' := by
    intro same
    rw [same] at digit
    exact absurd digit (by decide)
  constructor
  · rw [split] at whole fits digits ⊢
    simp only [List.cons_append] at whole ⊢
    rw [readNumber.eq_2 _ fun rest same => unsigned (List.cons.inj same).1]
    simp [whole, fraction, exponent, digits]
    exact Nat.not_lt.mp fits
  · have present : (Nat.toDigits 10 n).isEmpty = false := by
      rw [split]
      rfl
    simp [readNumber, whole, fraction, exponent, fits, digits, present]

/-- No word of a document starts with a digit, also not after a minus sign. -/
theorem find?_words {c : Char} (digit : c.isDigit = true) (tail : List Char) :
    (words.find? fun word => word.1.isPrefixOf (c :: tail)) = none ∧
      (words.find? fun word => word.1.isPrefixOf ('-' :: c :: tail)) = none := by
  have letters : ∀ word ∈ words, ∀ first, word.1.head? = some first →
      first.isDigit = false ∧ (first = '-' → ∀ next, word.1[1]? = some next → next.isDigit = false) := by
    simp [words]
  have two : ∀ word ∈ words, ∃ first next rest, word.1 = first :: next :: rest := by
    simp [words]
  simp only [List.find?_eq_none, List.isPrefixOf_iff_prefix]
  constructor
  · rintro word member ⟨rest, start⟩
    obtain ⟨first, next, others, split⟩ := two word member
    rw [split] at start
    have same : first = c := (List.cons.inj start).1
    rw [same] at split
    have letter := (letters word member c (by rw [split]; rfl)).1
    rw [digit] at letter
    cases letter
  · rintro word member ⟨rest, start⟩
    obtain ⟨first, next, others, split⟩ := two word member
    rw [split] at start
    obtain ⟨sign, follows⟩ := List.cons.inj start
    have same : next = c := (List.cons.inj follows).1
    rw [same] at split
    have letter := (letters word member first (by rw [split]; rfl)).2 sign c (by rw [split]; rfl)
    rw [digit] at letter
    cases letter

/-- **A whole number is read as it is written.** -/
theorem readScalar_intText {value : Int} (short : Decimal.isWritable value.natAbs = true)
    (ends : EndsNumber rest) :
    readScalar ((Decimal.intText value).toList ++ rest) = .ok (.int value, rest) := by
  cases value with
  | ofNat n =>
      have number := (readNumber_toDigits short ends).1
      obtain ⟨first, tail, split, digit⟩ := Decimal.exists_toDigits_cons n
      have noWord := (find?_words digit (tail ++ rest)).1
      rw [← List.cons_append, ← split] at noWord
      rw [Decimal.intText, Decimal.natText, String.toList_ofList, readScalar, noWord]
      exact number
  | negSucc n =>
      have number := (readNumber_toDigits short ends).2
      obtain ⟨first, tail, split, digit⟩ := Decimal.exists_toDigits_cons (n + 1)
      have noWord := (find?_words digit (tail ++ rest)).2
      rw [← List.cons_append, ← split] at noWord
      have written : (Decimal.intText (.negSucc n)).toList ++ rest =
          '-' :: (Nat.toDigits 10 (n + 1) ++ rest) := by
        simp [Decimal.intText, Decimal.natText]
      rw [written, readScalar, noWord]
      exact number

theorem isDigit_of_mem_readWhole {text : List Char} {c : Char} (member : c ∈ (readWhole text).1) :
    c.isDigit = true := by
  unfold readWhole at member
  split at member
  next =>
    rw [List.mem_singleton] at member
    rw [member]
    decide
  next => exact (Decimal.spanDigits_spec text).2 c member

/-- What is read as a number is a floating-point number, or a whole one that is short enough to be
written. -/
theorem number_of_readNumber {text : List Char} {value : Json}
    (read : readNumber text = .ok (value, rest)) :
    (∃ number, value = .int number ∧ Decimal.isWritable number.natAbs = true) ∨
      ∃ number, value = .float number := by
  unfold readNumber at read
  simp only at read
  -- With and without a sign the digits are limited in the same way.
  split at read
  all_goals
    split at read
    · cases read
    split at read
    · split at read
      · cases read
      next short =>
        have written := Decimal.isWritable_ofDigits
          (fun c member => isDigit_of_mem_readWhole member) (Nat.not_lt.mp short)
        cases read
        exact .inl ⟨_, rfl, by simpa using written⟩
    · cases read
      exact .inr ⟨_, rfl⟩

end SourceAudit.Json
