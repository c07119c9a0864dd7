import SourceAudit.Text.Hexadecimal
import SourceAudit.Text.Utf8

/-!
# Percent escapes

An escape is a percent sign with two hexadecimal digits, and stands for one byte of UTF-8.
-/

namespace SourceAudit.Percent

/-- One byte as an escape. -/
def ofByte (byte : UInt8) : List Char :=
  '%' :: (Text.hexDigits 2 byte.toNat).map Char.toUpper

/-- Write the characters that a test refuses as escapes of their bytes. A percent sign that the test
allows stays, so that escapes are not escaped again. -/
def escapeUnless (allowed : Char → Bool) (text : List Char) : List Char :=
  text.flatMap fun c => if allowed c then [c] else (Text.Utf8.encodeChar c).flatMap ofByte

/-- The bytes of a text whose escapes are read. A percent sign without two digits is itself. -/
def bytes : List Char → List UInt8
  | '%' :: high :: low :: rest =>
    match Text.hexValue? high, Text.hexValue? low with
    | some high, some low => UInt8.ofNat (high * 16 + low) :: bytes rest
    | _, _ => Text.Utf8.encodeChar '%' ++ bytes (high :: low :: rest)
  | c :: rest => Text.Utf8.encodeChar c ++ bytes rest
  | [] => []

/-- A text whose escapes are read. Bytes that are no UTF-8 become the replacement character. -/
def unescape (text : List Char) : List Char :=
  Text.Utf8.decodeLossy (bytes text)

end SourceAudit.Percent
