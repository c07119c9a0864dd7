import SourceAudit.Service.Message

/-!
# Origins

Pages of some origins may call the service from a browser; a star among the origins stands for all of
them. A browser asks first with a preflight request, which is answered whatever its path.
-/

namespace SourceAudit.Service

/-- The methods that pages may use. -/
def allowedMethods : List String := ["POST", "GET"]

/-- Whether every origin is among those allowed. -/
def allowsEvery (origins : List String) : Bool :=
  origins.contains "*"

/-- Whether pages of an origin may call the service. Origins are compared as texts; case and a slash
at the end count. -/
def isAllowedOrigin (origins : List String) (origin : String) : Bool :=
  allowsEvery origins || origins.contains origin

/-- The origin as a response repeats it, if it is allowed. Where every origin is, a response need not
repeat it unless the request has a cookie. -/
def grantedOrigin (origins : List String) (hasCookie : Bool) (origin : String) : Option String :=
  if allowsEvery origins && !hasCookie then some "*"
  else if isAllowedOrigin origins origin then some origin
  else none

/-- What a preflight request asks for: the origin and the method. It is one by its own method and
these two headers, whatever else it has. -/
def preflight? (request : Request) : Option (String × String) := do
  let origin ← request.header? "origin"
  let method ← request.header? "access-control-request-method"
  if request.method = "OPTIONS" then some (origin, method) else none

/-- What a preflight request asks for and does not get. Headers are never refused, so they are not
looked at. -/
def refusals (origins : List String) (origin method : String) : List String :=
  (if isAllowedOrigin origins origin then [] else ["origin"])
    ++ if allowedMethods.contains method then [] else ["method"]

/-- The answer to a preflight request. A refusal names what is refused, and the methods are told
either way. -/
def answerPreflight (origins : List String) (origin method : String) : Response :=
  let headers : OriginHeaders :=
    ⟨grantedOrigin origins false origin, some (", ".intercalate allowedMethods)⟩
  match refusals origins origin method with
  | [] => ⟨200, .text "OK", some headers⟩
  | refused => ⟨400, .text ("Disallowed CORS " ++ ", ".intercalate refused), some headers⟩

/-- The headers about origins on an answer to any other request. A request that names no origin gets
none. -/
def originHeaders (origins : List String) (request : Request) : Option OriginHeaders :=
  (request.header? "origin").map fun origin =>
    ⟨grantedOrigin origins (request.header? "cookie").isSome origin, none⟩

end SourceAudit.Service
