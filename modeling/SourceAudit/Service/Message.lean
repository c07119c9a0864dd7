import SourceAudit.Json.Strict
import SourceAudit.Validation.Basic

/-!
# Requests and responses of the service

A response whose document cannot be sent is none: where a handler has made one, the client gets the
answer to an error that nothing has turned into a response (`Outcome.sent`).
-/

namespace SourceAudit.Service

/-- A request to the service. The body is given by its characters; what a client sends are their
bytes in UTF-8. -/
structure Request where
  method : String
  target : String
  headers : List (String × String)
  body : List Char

namespace Request

/-- The value of a header; names are compared without case. -/
def header? (request : Request) (name : String) : Option String :=
  (request.headers.find? fun header => header.1.toLower == name.toLower).map (·.2)

/-- The path of the target, without the query. -/
def path (request : Request) : String :=
  String.ofList (request.target.toList.takeWhile (· != '?'))

end Request

/-- The body of a response: a document, or plain text where no endpoint has made one. -/
inductive Content
  | json (value : Json)
  | text (text : String)

/-- What a response tells a browser about origins. Only the answer to a preflight request names
methods. -/
structure OriginHeaders where
  allowOrigin : Option String
  allowMethods : Option String
  deriving DecidableEq

/-- A response of the service. The headers about origins are those of a response to a request that
names its origin. -/
structure Response where
  status : Nat
  content : Content
  origin : Option OriginHeaders

/-- What a handler makes of a request: a response, or an error that nothing has turned into one,
which the server answers without saying what it was. -/
inductive Outcome
  | respond (status : Nat) (content : Content)
  | crash

/-- What is left of a response when it is written: an error, if its document holds a lone surrogate or a
number that no document can hold. -/
def Outcome.sent : Outcome → Outcome
  | .respond status (.json value) =>
    if value.isSendable then .respond status (.json value) else .crash
  | outcome => outcome

/-- A response that says what is wrong, in one member of an object. -/
def Outcome.detail (status : Nat) (text : LooseText) : Outcome :=
  .respond status (.json (.obj [("detail", .str text)]))

open Validation in
/-- A step into a value as JSON. -/
def segmentJson : Segment → Json
  | .field name => .str name
  | .item index => .int index

open Validation in
/-- An issue as a JSON object: where it is, and its kind. What it shows of the value is left out
here. -/
def issueJson (issue : Issue) : Json :=
  .obj [("loc", .arr (issue.location.map segmentJson)), ("type", .str issue.kind.name)]

open Validation in
/-- What stands at a location of a value. A location that the value does not have gives nothing. -/
def valueAt? : Json → List Segment → Option Json
  | value, [] => some value
  | value, .field name :: rest => (value.get? name).bind (valueAt? · rest)
  | .arr items, .item index :: rest => (items[index]?).bind (valueAt? · rest)
  | _, .item _ :: _ => none

open Validation in
/-- What an issue shows of a value: what stands at its location, or the object that lacks a member. -/
def shownInput (value : Json) (issue : Issue) : Json :=
  let location := if issue.kind = .missing then issue.location.dropLast else issue.location
  (valueAt? value location).getD .null

/-- A response that lists what is wrong with a request. It also shows what was given in the place of
each issue, which may keep it from being sent. -/
def Outcome.unprocessable (given : Json) (issues : List Validation.Issue) : Outcome :=
  if issues.all fun issue => (shownInput given issue).isSendable then
    .respond 422 (.json (.obj [("detail", .arr (issues.map issueJson))]))
  else .crash

end SourceAudit.Service
