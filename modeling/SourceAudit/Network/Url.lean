import SourceAudit.Decimal.Numeral
import SourceAudit.Network.Address
import SourceAudit.Network.Host
import SourceAudit.Text.Quoted

/-!
# Reading addresses

One way to read an address, which brings it into normal form: scheme and host in lower case, a default
`portNumber` left out, steps up and in place removed from the path, and characters that an address
cannot hold written as percent escapes. An address with a control character, a bad host, a bad
`portNumber` or a path that does not fit is refused. How a name beyond ASCII is written is left to a
function `idna`, as the tables for it are no part of this library.
-/

namespace SourceAudit

/-- Why an address is refused. The whole text is looked at first, then its parts in turn, and the
first fault is told. -/
inductive UrlError
  | tooLong
  | partTooLong (part : String)
  | controlCharacter (c : Char) (position : Nat)
  | badHost (fault : Host.Fault) (host : String)
  | badPort (text : String)
  /-- The path does not start with a slash, though a host comes before it. -/
  | pathWithoutSlash
  /-- The path starts with two slashes, which would make it a host. -/
  | pathLikeHost
  /-- The path starts with a colon, which would end a scheme. -/
  | pathLikeScheme
  deriving DecidableEq

/-- The wording of a refused address. -/
def UrlError.message : UrlError → String
  | .tooLong => "URL too long"
  | .partTooLong part => "URL component '" ++ part ++ "' too long"
  | .controlCharacter c position =>
    "Invalid non-printable ASCII character in URL, " ++ Text.quote (String.singleton c)
      ++ " at position " ++ Decimal.natText position ++ "."
  | .badHost .badVersion4 host => "Invalid IPv4 address: " ++ Text.quote host
  | .badHost .badVersion6 host => "Invalid IPv6 address: " ++ Text.quote host
  | .badHost .badName host => "Invalid IDNA hostname: " ++ Text.quote host
  | .badPort text => "Invalid port: " ++ Text.quote text
  | .pathWithoutSlash => "For absolute URLs, path must be empty or begin with '/'"
  | .pathLikeHost => "Relative URLs cannot have a path starting with '//'"
  | .pathLikeScheme => "Relative URLs cannot have a path starting with ':'"

namespace Url

variable (idna : List Char → Option (List Char))

/-- The parts of an address as they are written, before anything is escaped or checked. A missing
query differs from an empty one. -/
structure Parts where
  scheme : List Char
  authority : List Char
  path : List Char
  query : Option (List Char)
  fragment : Option (List Char)

/-- A character of a scheme after the first. -/
def isSchemeChar (c : Char) : Bool :=
  c.isAlphanum || c == '+' || c == '.' || c == '-'

/-- The scheme before a colon, and the rest. A colon without a scheme before it is dropped. -/
def splitScheme (text : List Char) : List Char × List Char :=
  match text.span isSchemeChar with
  | (c :: scheme, ':' :: rest) => if c.isAlpha then (c :: scheme, rest) else ([], text)
  | ([], ':' :: rest) => ([], rest)
  | _ => ([], text)

/-- Split an address into its parts. This never fails: what looks like no address is a path. -/
def Parts.of (text : List Char) : Parts :=
  let (rest, fragment) := splitAfter '#' text
  let (rest, query) := splitAfter '?' rest
  let (scheme, rest) := splitScheme rest
  match rest with
  | '/' :: '/' :: after =>
    let (authority, path) := after.span (· != '/')
    ⟨scheme, authority, path, query, fragment⟩
  | path => ⟨scheme, [], path, query, fragment⟩

/-- A printable ASCII character that is not among some others. -/
def isPlainExcept (others : List Char) (c : Char) : Bool :=
  decide (0x20 < c.toNat) && decide (c.toNat < 0x7f) && !others.contains c

/-- A character that a query can hold. -/
def isQueryChar : Char → Bool :=
  isPlainExcept ['"', '#', '<', '>']

/-- A character that a fragment can hold. -/
def isFragmentChar : Char → Bool :=
  isPlainExcept ['"', '<', '>', '\x60']

/-- A character that a path can hold. -/
def isPathChar : Char → Bool :=
  isPlainExcept ['"', '#', '<', '>', '?', '\x60', '\x7b', '\x7d']

/-- A character that the part before the host can hold. -/
def isUserChar : Char → Bool :=
  isPlainExcept ['"', '#', '<', '>', '?', '\x60', '\x7b', '\x7d', '/', ';', '=', '@', '[', '\\',
    ']', '^', '|']

/-- The `portNumber` that goes without saying for a scheme. Most schemes have none. -/
def defaultPort? (scheme : List Char) : Option Int :=
  match String.ofList scheme with
  | "http" | "ws" => some 80
  | "https" | "wss" => some 443
  | "ftp" => some 21
  | _ => none

/-- Divide the text after the user into the host and the number after it. A host in brackets ends
with the last one, any other host before the first colon or at sign. -/
def splitHost (text : List Char) : List Char × List Char :=
  let (host, rest) := match text with
    | '[' :: _ =>
      match text.reverse.span (· != ']') with
      | (after, _ :: inside) => ((']' :: inside).reverse, after.reverse)
      | _ => text.span fun c => c != ':' && c != '@'
    | _ => text.span fun c => c != ':' && c != '@'
  match rest with
  | ':' :: number => (host, number)
  | number => (host, number)

/-- Divide an authority into the user, the host and the number after it. The user ends at the last
at sign. -/
def splitAuthority (text : List Char) : List Char × List Char × List Char :=
  match text.reverse.span (· != '@') with
  | (after, _ :: user) => (user.reverse, splitHost after.reverse)
  | _ => ([], splitHost text)

/-- The `portNumber` that a text writes, which may have blanks around it, a sign, and underscores
between its digits. -/
def readPort? (text : List Char) : Option Int :=
  let (negative, body) := match Text.trim text with
    | '+' :: rest => (false, rest)
    | '-' :: rest => (true, rest)
    | rest => (false, rest)
  (Decimal.dropUnderscores? body).bind fun digits =>
    if digits.isEmpty || !digits.all Char.isDigit then none
    else if Decimal.maxNumeralLength < digits.length then none
    else
      let size : Int := Decimal.ofDigits digits
      some (if negative then -size else size)

/-- The `portNumber` of an address; an empty or default one is left out. -/
def normalizePort (scheme text : List Char) : Except UrlError (Option Int) :=
  if text.isEmpty then .ok none
  else
    match readPort? text with
    | none => .error (.badPort (String.ofList text))
    | some number => .ok (if defaultPort? scheme = some number then none else some number)

/-- One segment of a path: a single dot is dropped, a double one takes the segment before it with
it. The segments so far are given latest first. -/
def addSegment (done : List (List Char)) (segment : List Char) : List (List Char) :=
  if segment = ['.'] then done
  else if segment = ['.', '.'] then
    match done with
    | [[]] => [[]]
    | _ :: rest => rest
    | [] => []
  else segment :: done

/-- A path without dot segments. A step up at the start of the path leads nowhere and is dropped. -/
def removeDots (path : List Char) : List Char :=
  List.intercalate ['/'] ((Text.splitOn '/' path).foldl addSegment []).reverse

/-- The fault of a path, which depends on what comes before it: without it, the text of the address
would be read differently. -/
def pathFault? (hasScheme hasAuthority : Bool) (path : List Char) : Option UrlError :=
  if hasAuthority then
    if path.isEmpty || path.head? = some '/' then none else some .pathWithoutSlash
  else if hasScheme then none
  else if path.take 2 = ['/', '/'] then some .pathLikeHost
  else if path.head? = some ':' then some .pathLikeScheme
  else none

/-- Bring the parts of an address into normal form. Dots are taken out of the path only where a
scheme or a host makes it an absolute one. -/
def ofParts (parts : Parts) : Except UrlError Url :=
  let (user, hostText, portText) := splitAuthority parts.authority
  let userInfo := Percent.escapeUnless isUserChar user
  match Host.normalize idna hostText with
  | .error fault => .error (.badHost fault (String.ofList hostText))
  | .ok host =>
    match normalizePort parts.scheme portText with
    | .error error => .error error
    | .ok portNumber =>
      let hasScheme := !parts.scheme.isEmpty
      let hasAuthority := !userInfo.isEmpty || !host.isEmpty || portNumber.isSome
      match pathFault? hasScheme hasAuthority parts.path with
      | some error => .error error
      | none =>
        let path := if hasScheme || hasAuthority then removeDots parts.path else parts.path
        .ok ⟨parts.scheme.map Char.toLower, userInfo, host, portNumber,
          Percent.escapeUnless isPathChar path,
          parts.query.map (Percent.escapeUnless isQueryChar),
          parts.fragment.map (Percent.escapeUnless isFragmentChar)⟩

/-- The greatest length of an address and of each of its parts, in characters. -/
def maxLength : Nat := 65536

/-- Whether a character is an ASCII control character. -/
def isControl (c : Char) : Bool :=
  decide (c.toNat < 0x20) || c.toNat == 0x7f

/-- Read an address. Its length and control characters are looked at in the whole text, the rest
part by part. -/
def read (text : List Char) : Except UrlError Url :=
  if maxLength < text.length then .error .tooLong
  else
    match text.findIdx? isControl with
    | some position => .error (.controlCharacter (text.getD position '\x00') position)
    | none => ofParts idna (Parts.of text)

/-- The first part that is too long. It can happen only where an address is put together; one that
is read is short enough as a whole. -/
def partTooLong? (parts : Parts) : Option UrlError :=
  let sizes := [("scheme", parts.scheme.length), ("authority", parts.authority.length),
    ("path", parts.path.length), ("query", (parts.query.getD []).length),
    ("fragment", (parts.fragment.getD []).length)]
  (sizes.find? fun (_, size) => decide (maxLength < size)).map fun (part, _) => .partTooLong part

/-- An address with another path and query, brought into normal form again; its fragment stays. -/
def withTarget (url : Url) (target : List Char) : Except UrlError Url :=
  let (path, query) := splitAfter '?' target
  let parts : Parts := ⟨url.scheme, url.authority, path, query, url.fragment⟩
  match partTooLong? parts with
  | some error => .error error
  | none => ofParts idna parts

/-- The address with a slash at the end of its path and query. The slash goes after the query where
there is one. -/
def asDirectory (url : Url) : Except UrlError Url :=
  if url.target.getLast? = some '/' then .ok url else url.withTarget idna (url.target ++ ['/'])

/-- The address of a resource below a base address. The resource is put after the query of the base
address, where it has one. -/
def below (base resource : String) : Except UrlError Url := do
  let directory ← (← read idna base.toList).asDirectory idna
  directory.withTarget idna (directory.target ++ resource.toList)

/-- The address as it is shown when it has no scheme. A number sign at the end is not shown. -/
def shownText (url : Url) : List Char :=
  if url.text.getLast? = some '#' then url.text.dropLast else url.text

/-- Whether the text of an address starts with what can be read as a scheme: anything before a colon
without a slash in it. -/
def startsWithScheme (url : Url) : Bool :=
  match url.text.span fun c => c != ':' && c != '/' with
  | (_ :: _, ':' :: _) => true
  | _ => false

end Url

end SourceAudit
