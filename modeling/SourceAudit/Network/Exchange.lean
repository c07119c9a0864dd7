import SourceAudit.Json.Basic
import SourceAudit.Network.Address

/-!
# Exchanges over the network

A request that is sent, and what comes of it: a response, or an error of the transport. What lies between
a client and the transport is a library of its own (`HttpLibrary`): it reads addresses, encodes bodies and
takes responses in, and each of these can fail. Nothing is assumed of it here; every statement about a
client holds for whatever the library does.
-/

namespace SourceAudit

/-- A request that is sent. The header values may be loose texts by their kind, but a client sends
only what is ASCII. -/
structure HttpRequest where
  method : String
  url : Url
  authorization : LooseText
  referer : Option LooseText
  contentType : String
  body : Json

/-- The kinds of errors that a transport or the library above it raises. A client treats errors of
one kind alike, whatever their wording. -/
inductive TransportFault
  /-- A failure of the connection or of the protocol. -/
  | connection
  /-- An address that cannot be used, or another error that belongs neither to the connection nor to the
  protocol. -/
  | invalidUrl
  /-- A value that cannot be used. -/
  | badValue
  deriving DecidableEq

/-- A response: its status, its headers and its body. The body is bytes, whose encoding is for the
reader to find. -/
structure HttpResponse where
  status : Nat
  headers : List (String × String)
  body : List UInt8

/-- An error of the transport or of the library above it, with its wording. -/
structure TransportError where
  fault : TransportFault
  text : LooseText
  deriving DecidableEq

/-- What comes of a request: a response of any status, or an error in place of one. -/
inductive Exchange
  | answered (response : HttpResponse)
  | raised (error : TransportError)

namespace HttpResponse

/-- The value of a header, by its name in lower case. Of several headers with one name the first
counts. -/
def header? (response : HttpResponse) (name : String) : Option String :=
  (response.headers.find? (·.1.toLower == name)).map (·.2)

/-- Whether a response reports success. -/
def isSuccess (response : HttpResponse) : Bool :=
  decide (200 ≤ response.status) && decide (response.status < 300)

end HttpResponse

/-- What a library does between a client and the transport. It is a parameter: statements about a
client hold for all libraries, or name what they need of one. -/
structure HttpLibrary where
  /-- The address of a resource below a base address. -/
  address : (base : LooseText) → (resource : String) → Except TransportError Url
  /-- Why a body cannot be encoded, if it cannot. -/
  bodyFault? : Json → Option LooseText
  /-- The body of a response to a request for an address, once it is taken in. -/
  receive : Url → HttpResponse → Except TransportError (List UInt8)
  /-- The text that a body is shown as, or why it has none. -/
  bodyText : HttpResponse → Except LooseText LooseText
  /-- How deep a body may be nested for its value to be read. -/
  depth : Nat

end SourceAudit
