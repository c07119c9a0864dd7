import SourceAudit.Decimal.Digits
import SourceAudit.Network.Percent
import SourceAudit.Text.Base64

/-!
# Addresses

An address in normal form, and what a request takes from it: its text, and the authorization that a user
and a password in it stand for.
-/

namespace SourceAudit

/-- An address in normal form. Its parts are escaped already, so that it is written by putting them
together; the host has no brackets around a number. -/
structure Url where
  scheme : List Char
  userInfo : List Char
  host : List Char
  /-- The number after the host, unless it is the default of the scheme. -/
  portNumber : Option Int
  path : List Char
  query : Option (List Char)
  fragment : Option (List Char)
  deriving DecidableEq

namespace Url

/-- The part after a mark, and the text before it. The first mark counts; without one there is no
part, which is not the same as an empty one. -/
def splitAfter (mark : Char) (text : List Char) : List Char × Option (List Char) :=
  match text.span (· != mark) with
  | (before, _ :: after) => (before, some after)
  | (before, []) => (before, none)

/-- The user, the host and the `portNumber` of an address. A host with a colon in it is a number and
stands in brackets. -/
def authority (url : Url) : List Char :=
  (if url.userInfo.isEmpty then [] else url.userInfo ++ ['@'])
    ++ (if url.host.contains ':' then '[' :: url.host ++ [']'] else url.host)
    ++ match url.portNumber with
      | none => []
      | some number => ':' :: (Decimal.intText number).toList

/-- The text after a mark, with the mark; nothing if the part is missing. -/
def marked (mark : Char) : Option (List Char) → List Char
  | none => []
  | some part => mark :: part

/-- The path and the query of an address, as a request names them. An empty path counts as a slash. -/
def target (url : Url) : List Char :=
  (if url.path.isEmpty then ['/'] else url.path) ++ marked '?' url.query

/-- An address as text. -/
def text (url : Url) : List Char :=
  (if url.scheme.isEmpty then [] else url.scheme ++ [':'])
    ++ (if url.authority.isEmpty then [] else '/' :: '/' :: url.authority)
    ++ url.path ++ marked '?' url.query ++ marked '#' url.fragment

/-- The authorization that the user and the password of an address stand for. Escapes are read
before, and an address with neither of the two asks for none. -/
def credentials? (url : Url) : Option String :=
  let (user, password) := splitAfter ':' url.userInfo
  let user := Percent.unescape user
  let password := Percent.unescape (password.getD [])
  if user.isEmpty && password.isEmpty then none
  else
    let bytes := Text.Utf8.encode (user ++ ':' :: password)
    some ("Basic " ++ String.ofList (Text.Base64.encode bytes))

end Url

end SourceAudit
