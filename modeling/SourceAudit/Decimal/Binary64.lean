import SourceAudit.Decimal.Digits

/-!
# Binary floating point

Floating-point numbers with 53 bits of precision and exponents from -1074 to 971, held exactly: a
finite number is a sign, a natural number below `2 ^ 53` and a power of two. `ofRatio` rounds a
quotient to the nearest such number, a tie to the even one.
-/

namespace SourceAudit.Decimal

/-- A floating-point number. A finite one is `± mantissa · 2 ^ exponent`, and of the ways to write
it so rounding takes the one with the longest mantissa. -/
inductive Binary64
  | nan
  | infinite (negative : Bool)
  | finite (negative : Bool) (mantissa : Nat) (exponent : Int)
  deriving DecidableEq, Inhabited

namespace Binary64

/-- The least exponent, at which mantissas may be short. Zero and the numbers next to it have it. -/
def minExponent : Int := -1074

/-- The greatest exponent of a finite number. -/
def maxExponent : Int := 971

/-- Zero, with its sign. -/
def zero (negative : Bool) : Binary64 := .finite negative 0 minExponent

/-- A quotient with a power of two taken out: `num / den / 2 ^ exponent` as a quotient of natural
numbers, whatever the sign of the exponent. -/
def scaleDown (num den : Nat) (exponent : Int) : Nat × Nat :=
  if 0 ≤ exponent then (num, den * Nat.pow 2 exponent.toNat)
  else (num * Nat.pow 2 (-exponent).toNat, den)

/-- The nearest natural number to a quotient, of two equally near ones the even one. The denominator
must not be zero. -/
def roundEven (num den : Nat) : Nat :=
  let whole := num / den
  let rest := num % den
  if 2 * rest > den ∨ (2 * rest = den ∧ whole % 2 = 1) then whole + 1 else whole

/-- The greatest exponent at which a positive quotient still has 53 bits before the point. The
lengths of the two numbers leave a choice of two, between which one comparison decides. -/
def leadingExponent (num den : Nat) : Int :=
  let guess : Int := num.log2 - den.log2
  let (scaled, unit) := scaleDown num den guess
  if unit ≤ scaled then guess - 52 else guess - 53

/-- The floating-point number nearest to a quotient. It is infinite where rounding to 53 bits goes
beyond the greatest exponent, and it may be zero for a quotient that is not. -/
def ofRatio (negative : Bool) (num den : Nat) : Binary64 :=
  if num = 0 then zero negative
  else
    let exponent := max (leadingExponent num den) minExponent
    let (scaled, unit) := scaleDown num den exponent
    let mantissa := roundEven scaled unit
    let (mantissa, exponent) :=
      if mantissa = Nat.pow 2 53 then (Nat.pow 2 52, exponent + 1) else (mantissa, exponent)
    if exponent > maxExponent then .infinite negative else .finite negative mantissa exponent

/-- The floating-point number nearest to `± digits · 10 ^ exponent`, for a whole number written with
the given digits. Far outside the range the answer is known without computing it. -/
def ofDecimal (negative : Bool) (digits : List Char) (exponent : Int) : Binary64 :=
  let digits := digits.dropWhile (· == '0')
  if digits.isEmpty then zero negative
  else if 400 < digits.length + exponent then .infinite negative
  else if digits.length + exponent < -400 then zero negative
  else if 0 ≤ exponent then ofRatio negative (ofDigits digits * Nat.pow 10 exponent.toNat) 1
  else ofRatio negative (ofDigits digits) (Nat.pow 10 (-exponent).toNat)

/-- The floating-point number nearest to an integer, which may be another number where 53 bits are
not enough. -/
def ofInt (n : Int) : Binary64 :=
  ofRatio (decide (n < 0)) n.natAbs 1

/-- Whether a number is greater than zero. Infinity is, not-a-number and the zeros of both signs are
not. -/
def isPositive : Binary64 → Bool
  | .nan => false
  | .infinite negative => !negative
  | .finite negative mantissa _ => !negative && mantissa != 0

/-- Whether a number is neither infinite nor not-a-number. -/
def isFinite : Binary64 → Bool
  | .finite .. => true
  | _ => false

/-- A zero of either sign. -/
def isZero : Binary64 → Bool
  | .finite _ mantissa _ => mantissa == 0
  | _ => false

/-- The integer that a number equals, if it is one. Both zeros are the integer zero; what is not
finite is none. -/
def toInt? : Binary64 → Option Int
  | .finite negative mantissa exponent =>
    let (num, den) := scaleDown mantissa 1 (-exponent)
    if num % den = 0 then
      let value : Int := (num / den : Nat)
      some (if negative then -value else value)
    else none
  | _ => none

end Binary64

end SourceAudit.Decimal
