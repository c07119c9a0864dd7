import SourceAudit.Network.Exchange
import SourceAudit.Network.Url
import SourceAudit.Text.Blank
import SourceAudit.Text.Encode
import SourceAudit.Text.Encoding
import SourceAudit.Text.Lines

/-!
# A library for requests

An instance of what a client relies on: addresses are read as in `Url.read`, a response is refused when
the address of its request has no scheme or when it points to an address that cannot be read, and a body
is shown in the encoding that its content type declares. It is meant for addresses and bodies of Unicode
text, where nothing else is refused.
-/

namespace SourceAudit

namespace HttpResponse

/-- The address that a response sends the client on to. Five statuses do, and only if there is a
header that names the address. -/
def redirect? (response : HttpResponse) : Option String :=
  if [301, 302, 303, 307, 308].contains response.status then response.header? "location" else none

/-- A text without quotes around it. -/
def unquoted (text : List Char) : List Char :=
  match text with
  | '"' :: rest => if rest.getLast? = some '"' then rest.dropLast else text
  | _ => text

/-- The value of the character set parameter of a content type. The name of the parameter may be in
any case, and its value in quotes; the first one counts. -/
def charset? (contentType : String) : Option String :=
  ((Text.splitOn ';' contentType.toList).drop 1).findSome? fun parameter =>
    match parameter.span (· != '=') with
    | (name, _ :: value) =>
      if (Text.trim name).map Char.toLower = "charset".toList then
        some (String.ofList (unquoted (Text.trim value)))
      else none
    | _ => none

/-- The encoding that a response declares; without a known one it is UTF-8. The bytes of the body
are not looked at. -/
def encoding (response : HttpResponse) : Text.Encoding :=
  (((response.header? "content-type").bind charset?).bind Text.Encoding.ofLabel?).getD .utf8

/-- The body as text. Malformed bytes are replaced, so that only a body that lacks a mark has no
text. -/
def text (response : HttpResponse) : Except Text.MissingMark (List Char) :=
  response.encoding.decodeMarked response.body

end HttpResponse

namespace HttpLibrary

/-- The error of an address that a response sends the client on to. Such an address is read, though it is
not followed; one without a host gets the host of the request. -/
def redirectError? (idna : List Char → Option (List Char)) (url : Url) (location : String) :
    Option TransportError :=
  match Url.read idna location.toList with
  | .error error =>
    some ⟨.connection, "Invalid URL in location header: " ++ error.message ++ "."⟩
  | .ok next =>
    if next.scheme.isEmpty || !next.host.isEmpty then none
    else (Url.pathFault? true (!url.host.isEmpty) next.path).map fun error =>
      ⟨.invalidUrl, error.message⟩

/-- The body of a response, unless the address of the request or the one that the response points to is
refused. -/
def receiveUnder (idna : List Char → Option (List Char)) (url : Url) (response : HttpResponse) :
    Except TransportError (List UInt8) :=
  if !url.startsWithScheme then
    .error ⟨.badValue, "unknown url type: " ++ Text.quote (String.ofList url.shownText)⟩
  else
    match response.redirect?.bind (redirectError? idna url) with
    | some error => .error error
    | none => .ok response.body

/-- The address of a resource below a base address that is Unicode text. The base is first encoded
as a path is, where some surrogates are refused. -/
def addressUnder (idna : List Char → Option (List Char)) (base : LooseText) (resource : String) :
    Except TransportError Url :=
  match Text.pathBytes base with
  | .error error => .error ⟨.badValue, error.message⟩
  | .ok _ =>
    match Url.below idna base.shown resource with
    | .ok url => .ok url
    | .error error => .error ⟨.invalidUrl, error.message⟩

/-- The library whose hosts are written by `idna`, and which reads bodies nested up to a depth. -/
def reading (idna : List Char → Option (List Char)) (depth : Nat) : HttpLibrary where
  address := addressUnder idna
  bodyFault? _ := none
  receive := receiveUnder idna
  bodyText response :=
    match response.text with
    | .ok text => .ok (String.ofList text)
    | .error missing => .error missing.message
  depth := depth

end HttpLibrary

end SourceAudit
