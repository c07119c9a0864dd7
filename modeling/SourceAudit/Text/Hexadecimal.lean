/-!
# Hexadecimal digits

Numbers as hexadecimal digits of a fixed width, and the value of one digit in either case.
-/

namespace SourceAudit.Text

/-- The lowest `width` hexadecimal digits of a number, in lower case and with leading zeros. Higher
digits are dropped. -/
def hexDigits (width value : Nat) : List Char :=
  (List.range width).reverse.map fun place => Nat.digitChar (value / Nat.pow 16 place % 16)

/-- The value of a hexadecimal digit. -/
def hexValue? (c : Char) : Option Nat :=
  if c.isDigit then some (c.toNat - '0'.toNat)
  else if 'a' ≤ c ∧ c ≤ 'f' then some (c.toNat - 'a'.toNat + 10)
  else if 'A' ≤ c ∧ c ≤ 'F' then some (c.toNat - 'A'.toNat + 10)
  else none

end SourceAudit.Text
