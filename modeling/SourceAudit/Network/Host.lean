import SourceAudit.Decimal.Digits
import SourceAudit.Network.Percent
import SourceAudit.Text.Lines
import SourceAudit.Text.Lowercase

/-!
# Hosts

The host of an address is a name or a number. A number of version 4 is dotted, one of version 6
stands in brackets. Names are in lower case. How a name beyond ASCII is written in ASCII, and whether it
can be, is for the function `idna` to say.
-/

namespace SourceAudit.Host

/-- Why a host is refused. A name in ASCII never is, so only numbers and names beyond ASCII can be. -/
inductive Fault
  | badVersion4
  | badVersion6
  | badName
  deriving DecidableEq

/-- Where a reader of a dotted number can be: the run of digits, and whether it has a digit. There
may be several places at once, as a digit can separate two runs too. -/
abbrev DottedStates := List (Nat × Bool)

/-- Read one character. A digit continues its run, and any character may separate two runs. -/
def stepDotted (states : DottedStates) (c : Char) : DottedStates :=
  (states.flatMap fun (run, hasDigit) =>
    (if c.isDigit then [(run, true)] else [])
      ++ (if hasDigit && run < 3 then [(run + 1, false)] else [])).eraseDups

/-- Whether a host is four runs of digits with one character between each two. Such a host is taken
for a number of version 4, whatever separates the runs. -/
def looksDotted (host : List Char) : Bool :=
  (host.foldl stepDotted [(0, false)]).contains (3, true)

/-- Whether a text is a decimal number of one byte, without leading zeros. -/
def isOctet (text : List Char) : Bool :=
  !text.isEmpty && text.length ≤ 3 && text.all Char.isDigit
    && (text.length == 1 || text.head? != some '0') && Decimal.ofDigits text ≤ 255

/-- Whether a text is a number of version 4: four decimal bytes with dots between them. -/
def isVersion4 (text : List Char) : Bool :=
  let octets := Text.splitOn '.' text
  octets.length == 4 && octets.all isOctet

/-- Whether a text is a hexadecimal number of two bytes, perhaps without its leading zeros. -/
def isGroup (text : List Char) : Bool :=
  !text.isEmpty && text.length ≤ 4 && text.all fun c => (Text.hexValue? c).isSome

/-- The groups of a number of version 6 between colons; a dotted number at the end counts as two. -/
def groups? (text : List Char) : Option (List (List Char)) :=
  let parts := Text.splitOn ':' text
  let last := parts.getLast?.getD []
  if parts.length < 3 then none
  else if last.contains '.' then
    if isVersion4 last then some (parts.dropLast ++ [['0'], ['0']]) else none
  else some parts

/-- The groups on one side of the gap. The gap reaches to the end of the number where the side is a
single empty group. -/
def besideGap (side : List (List Char)) : List (List Char) :=
  if side = [[]] then [] else side

/-- Whether groups make up a number of version 6: eight of them, or fewer with one gap. -/
def areVersion6 (groups : List (List Char)) : Bool :=
  let inner := (groups.drop 1).dropLast
  match inner.findIdx? List.isEmpty with
  | none => groups.length == 8 && groups.all isGroup
  | some index =>
    let before := besideGap (groups.take (index + 1))
    let after := besideGap (groups.drop (index + 2))
    groups.length ≤ 9 && before.length + after.length ≤ 7 && before.all isGroup
      && after.all isGroup

/-- Whether a text is a number of version 6, perhaps with a zone after a percent sign. -/
def isVersion6 (text : List Char) : Bool :=
  let number := text.takeWhile (· != '%')
  let zone := text.drop number.length
  (zone.isEmpty || (1 < zone.length && zone.count '%' == 1))
    && (groups? number).any areVersion6

/-- A character that a name in ASCII can hold. -/
def isNameChar (c : Char) : Bool :=
  c.isAlphanum || "-._~!$&'()*+,;=\"%|\\".toList.contains c || ['\x60', '\x7b', '\x7d'].contains c

/-- A host in normal form, without the brackets of a number. A name in ASCII is escaped where it
must be; one beyond ASCII is written by `idna`, from its lower case. -/
def normalize (idna : List Char → Option (List Char)) (host : List Char) :
    Except Fault (List Char) :=
  let inner := (host.drop 1).dropLast
  if looksDotted host then
    if isVersion4 host then .ok host else .error .badVersion4
  else if 2 ≤ host.length ∧ host.head? = some '[' ∧ host.getLast? = some ']' then
    if isVersion6 inner then .ok inner else .error .badVersion6
  else if host.all fun c => decide (c.toNat < 0x80) then
    .ok (Percent.escapeUnless isNameChar (host.map Char.toLower))
  else
    match idna (Text.lower host) with
    | some name => .ok name
    | none => .error .badName

end SourceAudit.Host
