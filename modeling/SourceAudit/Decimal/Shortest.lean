import SourceAudit.Decimal.Binary64

/-!
# Shortest decimal text of a floating-point number

The digits are the fewest that read back as the same number: the interval of reals that round to it
is met by a multiple of some power of ten, and the coarsest such power gives them. Of two multiples
in the interval the nearer one is taken, and of two equally near ones the even one.
-/

namespace SourceAudit.Decimal

/-- A positive decimal number `digits · 10 ^ exponent`. -/
structure Scientific where
  digits : Nat
  exponent : Int
  deriving DecidableEq

/-- The greatest exponent of ten at which a floating-point number is looked for. Ten to the power of
one more is beyond all finite numbers. -/
def coarsestGrid : Int := 308

/-- The number of exponents of ten that are tried; the last grid is finer than every interval. -/
def gridCount : Nat := 660

/-- The multiple of `10 ^ grid` that reads back as `mantissa · 2 ^ exponent`, if there is one. All
quantities are compared in quarters of the last binary place. -/
def gridPoint? (mantissa : Nat) (exponent grid : Int) : Option Nat :=
  let atBoundary := mantissa = Nat.pow 2 52 ∧ exponent > Binary64.minExponent
  let low := 4 * mantissa - if atBoundary then 1 else 2
  let high := 4 * mantissa + 2
  let unit := Binary64.scaleDown 1 1 (2 - exponent)
  let ten := if 0 ≤ grid then (Nat.pow 10 grid.toNat, 1) else (1, Nat.pow 10 (-grid).toNat)
  let quarter := unit.1 * ten.2
  let step := ten.1 * unit.2
  let readsBack (count : Nat) : Bool :=
    if mantissa % 2 = 0 then low * quarter ≤ count * step && count * step ≤ high * quarter
    else low * quarter < count * step && count * step < high * quarter
  let below := 4 * mantissa * quarter / step
  let above := below + 1
  match readsBack below, readsBack above with
  | true, true =>
    let toBelow := 4 * mantissa * quarter - below * step
    let toAbove := above * step - 4 * mantissa * quarter
    some <|
      if toBelow < toAbove ∨ (toBelow = toAbove ∧ below % 2 = 0) then below else above
  | true, false => some below
  | false, true => some above
  | false, false => none

/-- The shortest decimal number that reads back as `mantissa · 2 ^ exponent`. The grids are tried
from the coarsest on, so the first that is met gives the fewest digits. -/
def shortest (mantissa : Nat) (exponent : Int) : Scientific :=
  let found := (List.range gridCount).findSome? fun (step : Nat) =>
    let grid := coarsestGrid - (step : Nat)
    (gridPoint? mantissa exponent grid).map (Scientific.mk · grid)
  found.getD ⟨0, 0⟩

/-- How numbers are written: scientific exponents from `positionalFrom` up to but not including
`scientificFrom` are written positionally, others with an exponent of at least `exponentWidth`
digits and its sign. -/
structure NumberStyle where
  positionalFrom : Int
  scientificFrom : Int
  exponentWidth : Nat

/-- Positional from `0.0001` up to but not including `10 ^ 16`. Exponents beyond that have two
digits at least. -/
def plainStyle : NumberStyle := ⟨-4, 16, 2⟩

/-- Digits with a point after the first `places` of them, filled up with zeros. There is always a
digit on either side of the point. -/
def placePoint (digits : List Char) (places : Int) : List Char :=
  if places ≤ 0 then '0' :: '.' :: (List.replicate (-places).toNat '0' ++ digits)
  else
    let whole := places.toNat
    if digits.length ≤ whole then
      digits ++ List.replicate (whole - digits.length) '0' ++ ['.', '0']
    else digits.take whole ++ '.' :: digits.drop whole

/-- A positive decimal number in a given style. -/
def Scientific.text (style : NumberStyle) (number : Scientific) : List Char :=
  let digits := Nat.toDigits 10 number.digits
  let leading : Int := number.exponent + digits.length - 1
  if style.positionalFrom ≤ leading ∧ leading < style.scientificFrom then
    placePoint digits (leading + 1)
  else
    let mantissa := match digits with
      | first :: second :: rest => first :: '.' :: second :: rest
      | _ => digits
    mantissa ++ 'e' :: (if leading < 0 then '-' else '+')
      :: (paddedText style.exponentWidth leading.natAbs).toList

/-- A floating-point number as decimal text: the shortest that reads back as the number. A whole
number that is written positionally shows a point and a zero, and zero keeps its sign. -/
def Binary64.text (number : Binary64) : String :=
  match number with
  | .nan => "nan"
  | .infinite negative => if negative then "-inf" else "inf"
  | .finite negative mantissa exponent =>
    let digits :=
      if mantissa = 0 then ['0', '.', '0'] else (shortest mantissa exponent).text plainStyle
    String.ofList (if negative then '-' :: digits else digits)

end SourceAudit.Decimal
