import SourceAudit.Text.Utf8

/-!
# Base 64

Bytes as text: three bytes become four characters, and a shorter rest is filled up with equals signs.
-/

namespace SourceAudit.Text.Base64

/-- The 64 digits. -/
def alphabet : List Char :=
  "ABCDEFGHIJKLMNOPQRSTUVWXYZabcdefghijklmnopqrstuvwxyz0123456789+/".toList

/-- One digit. -/
def digit (value : Nat) : Char :=
  alphabet.getD (value % 64) '='

/-- Bytes as base 64 text. Each three bytes make up four digits; one or two bytes that are left are
filled up with zero bits. -/
def encode : List UInt8 → List Char
  | a :: b :: c :: rest =>
    let value := (a.toNat * 256 + b.toNat) * 256 + c.toNat
    digit (value / 0x40000) :: digit (value / 0x1000) :: digit (value / 64) :: digit value
      :: encode rest
  | [a, b] =>
    let value := (a.toNat * 256 + b.toNat) * 4
    [digit (value / 0x1000), digit (value / 64), digit value, '=']
  | [a] =>
    let value := a.toNat * 16
    [digit (value / 64), digit value, '=', '=']
  | [] => []

end SourceAudit.Text.Base64
