import SourceAudit.Decimal.Numeral
import SourceAudit.Proofs.Text.Runs
import Mathlib.Algebra.Group.Nat.Defs
import Mathlib.Data.List.TakeDrop

/-!
# Decimal digits read back

The digits of a number read as the number (`ofDigits_toDigits`, `ofDigits_paddedText`), and a list of
digits reads as a number that is no longer than the list (`isWritable_ofDigits`).
-/

namespace SourceAudit.Decimal

variable {digits rest : List Char}

theorem ofDigits_eq (digits : List Char) : ofDigits digits = Nat.ofDigitChars 10 digits 0 := by
  rw [ofDigits, Nat.ofDigitChars_eq_foldl]
  congr 1
  funext value c
  rw [digitValue, Nat.mul_comm]

theorem ofDigits_toDigits (n : Nat) : ofDigits (Nat.toDigits 10 n) = n := by
  rw [ofDigits_eq, Nat.ofDigitChars_ten_toDigits]

theorem isDigit_toDigits (n : Nat) : ∀ c ∈ Nat.toDigits 10 n, c.isDigit = true :=
  fun _ member => Nat.isDigit_of_mem_toDigits (by decide) (by decide) member

/-- A numeral starts with a digit. -/
theorem exists_toDigits_cons (n : Nat) :
    ∃ first tail, Nat.toDigits 10 n = first :: tail ∧ first.isDigit = true := by
  have present : Nat.toDigits 10 n ≠ [] := Nat.toDigits_ne_nil
  obtain ⟨first, tail, split⟩ := List.exists_cons_of_ne_nil present
  exact ⟨first, tail, split, isDigit_toDigits n first (split ▸ List.mem_cons_self)⟩

/-- A number that is not zero has no leading zero. -/
theorem head?_toDigits {n : Nat} (positive : n ≠ 0) : (Nat.toDigits 10 n).head? ≠ some '0' := by
  induction n using Nat.strongRecOn with
  | ind n ih =>
      rw [Nat.toDigits_eq_if (by decide)]
      split
      next => simpa using positive
      next large =>
        have smaller := ih (n / 10) (by omega) (by omega)
        obtain ⟨first, tail, split, -⟩ := exists_toDigits_cons (n / 10)
        rw [split] at smaller ⊢
        exact smaller

/-- Digits write a number below the power of ten of their length. -/
theorem ofDigits_lt (written : ∀ c ∈ digits, c.isDigit = true) :
    ofDigits digits < 10 ^ digits.length := by
  rw [ofDigits_eq]
  induction digits with
  | nil => simp
  | cons c rest ih =>
      have first : c.toNat - '0'.toNat ≤ 9 := by
        have upper : c.toNat ≤ 57 := (Char.isDigit_iff_toNat.mp (written c List.mem_cons_self)).2
        have zero : '0'.toNat = 48 := rfl
        omega
      have others := ih fun c member => written c (List.mem_cons_of_mem _ member)
      have scaled : 10 ^ rest.length * (c.toNat - '0'.toNat) ≤ 10 ^ rest.length * 9 :=
        Nat.mul_le_mul_left _ first
      rw [Nat.ofDigitChars_cons, Nat.ofDigitChars_eq_ofDigitChars_zero, List.length_cons,
        Nat.pow_succ, Nat.mul_zero, Nat.zero_add]
      omega

theorem isWritable_iff (n : Nat) : isWritable n = true ↔ n < 10 ^ maxNumeralLength := by
  rw [isWritable, decide_eq_true_eq]
  exact Nat.length_toDigits_le_iff (by decide) (by decide)

/-- What digits write can be written with them. -/
theorem isWritable_ofDigits (written : ∀ c ∈ digits, c.isDigit = true)
    (short : digits.length ≤ maxNumeralLength) : isWritable (ofDigits digits) = true := by
  rw [isWritable_iff]
  exact Nat.lt_of_lt_of_le (ofDigits_lt written) (Nat.pow_le_pow_right (by decide) short)

/-- Numbers of machine size can be written. -/
theorem isWritable_of_lt {n : Nat} (small : n < 2 ^ 63) : isWritable n = true := by
  rw [isWritable_iff]
  calc
    n < 2 ^ 63 := small
    _ ≤ 10 ^ 19 := by decide
    _ ≤ 10 ^ maxNumeralLength := Nat.pow_le_pow_right (by decide) (by decide)

/-- A plain numeral is limited in its length, so what it writes can be written again. -/
theorem isWritable_of_readPlainInt {text : List Char} {number : Int}
    (read : readPlainInt text = .ok number) : isWritable number.natAbs = true := by
  unfold readPlainInt at read
  split at read
  · cases read
  next short =>
    have numeral (digits : List Char) (valid : ¬ (digits.isEmpty || !digits.all Char.isDigit) = true) :
        ∀ c ∈ digits, c.isDigit = true := by
      rw [Bool.or_eq_true, not_or, Bool.not_eq_true', Bool.not_eq_false, List.all_eq_true] at valid
      exact valid.2
    simp only at read
    -- The sign, if there is one, is not among the digits.
    split at read
    next rest =>
      split at read
      · cases read
      next valid =>
        have shorter : rest.length ≤ maxNumeralLength :=
          Nat.le_trans (Nat.le_succ rest.length) (Nat.not_lt.mp short)
        have written := isWritable_ofDigits (numeral rest valid) shorter
        split at read
        · cases read
        · cases read
          simpa using written
    next =>
      split at read
      · cases read
      next valid =>
        have written := isWritable_ofDigits (numeral text valid) (Nat.not_lt.mp short)
        split at read
        · cases read
        · cases read
          simpa using written

/-- A looser numeral is read as the plain one that it stands for. -/
theorem isWritable_of_readInt {text : List Char} {number : Int} (read : readInt text = .ok number) :
    isWritable number.natAbs = true := by
  unfold readInt at read
  split at read
  next =>
    split at read
    next => exact isWritable_of_readPlainInt read
    next => cases read
  next => exact isWritable_of_readPlainInt read

/-- A reader of digits stops at the first character of another kind. -/
theorem spanDigits_append (written : ∀ c ∈ digits, c.isDigit = true)
    (stops : ∀ c, rest.head? = some c → c.isDigit = false) :
    spanDigits (digits ++ rest) = (digits, rest) := by
  have front : rest.takeWhile Char.isDigit = [] ∧ rest.dropWhile Char.isDigit = rest := by
    cases rest with
    | nil => exact ⟨rfl, rfl⟩
    | cons c tail => simp [stops c rfl]
  rw [spanDigits, List.span_eq_takeWhile_dropWhile, List.takeWhile_append_of_pos written,
    List.dropWhile_append_of_pos written, front.1, front.2, List.append_nil]

/-- The digits that a reader takes are digits, and they stand in front of the rest. -/
theorem spanDigits_spec (text : List Char) :
    (spanDigits text).1 ++ (spanDigits text).2 = text ∧
      ∀ c ∈ (spanDigits text).1, c.isDigit = true := by
  rw [spanDigits, List.span_eq_takeWhile_dropWhile]
  exact ⟨List.takeWhile_append_dropWhile, fun c member => List.mem_takeWhile_imp member⟩

section Padded

variable {width n : Nat}

theorem toList_paddedText (width n : Nat) : (paddedText width n).toList =
    List.replicate (width - (Nat.toDigits 10 n).length) '0' ++ Nat.toDigits 10 n := by
  rw [paddedText, String.toList_ofList]

theorem ofDigits_paddedText (width n : Nat) : ofDigits (paddedText width n).toList = n := by
  rw [toList_paddedText, ofDigits_eq, Nat.ofDigitChars_append, Nat.ofDigitChars_replicate_zero,
    Nat.mul_zero, Nat.ofDigitChars_ten_toDigits]

theorem isDigit_paddedText (width n : Nat) :
    ∀ c ∈ (paddedText width n).toList, c.isDigit = true := by
  intro c member
  rw [toList_paddedText, List.mem_append] at member
  rcases member with zero | digit
  · rw [List.eq_of_mem_replicate zero]
    decide
  · exact isDigit_toDigits n c digit

/-- A number that fits is filled up to the width. -/
theorem length_paddedText (positive : 0 < width) (fits : n < 10 ^ width) :
    (paddedText width n).toList.length = width := by
  have short := (Nat.length_toDigits_le_iff (by decide : 1 < 10) positive).mpr fits
  rw [toList_paddedText, List.length_append, List.length_replicate]
  omega

end Padded

end SourceAudit.Decimal
