import SourceAudit.Enhancement.Completion
import SourceAudit.Json.Parser
import SourceAudit.Network.Exchange
import SourceAudit.Text.Encode
import SourceAudit.Text.Encoding

/-!
# The OpenRouter client

A prompt becomes a chat request; the reply is the content of the first choice. Every status outside
200 to 299 is an error that shows the start of the body. Errors of the library and of the transport are
told apart by their kind only: those of the connection and bad values are reported as enhancement errors,
the others pass through.
-/

namespace SourceAudit.OpenRouter

/-- What a client needs to send requests. The timeout is for the transport; no request shows it. -/
structure Client where
  apiKey : LooseText
  model : LooseText
  baseUrl : LooseText
  timeout : Decimal.Binary64
  referer : Option LooseText

/-- The text without the slashes at its end, so that a resource can be put after one slash whether
or not a base address has it. -/
def dropSlashes (text : LooseText) : LooseText :=
  .ofPoints (text.points.reverse.dropWhile (· == '/'.toNat)).reverse

/-- What an error of the library or of the transport is reported as. -/
def failureOf (error : TransportError) : CompletionFailure :=
  match error.fault with
  | .connection => .enhancement (.requestFailed error.text)
  | .badValue => .enhancement (.invalidJson error.text)
  | .invalidUrl => .invalidUrl error.text

namespace Client

/-- The authorization that a request carries. -/
def authorization (client : Client) : LooseText :=
  "Bearer " ++ client.apiKey

/-- The referer that a request carries; an empty one is left out, as is one that is not set. -/
def sentReferer (client : Client) : Option LooseText :=
  client.referer.filter (· != ("" : LooseText))

/-- The headers that a request carries, in the order in which they are written. The library adds
others, which are ASCII anyway. -/
def headers (client : Client) : List (String × LooseText) :=
  ("Authorization", client.authorization)
    :: (client.sentReferer.map fun referer => ("HTTP-Referer", referer)).toList

/-- The body of a request: the model, and a conversation of two messages, the instruction and the
prompt. -/
def payload (client : Client) (system prompt : LooseText) : Json :=
  let message (role : String) (content : LooseText) : Json :=
    .obj [("role", .str role), ("content", .str content)]
  .obj [("model", .str client.model),
    ("messages", .arr [message "system" system, message "user" prompt])]

/-- Why the headers of a request cannot be written, if they cannot: the first one that is not ASCII.
The error shows a character of the header, so it may show one of the key. -/
def headerFault? (client : Client) : Option Text.EncodeError :=
  client.headers.findSome? fun header => Text.asciiFault? header.2

/-- The request for a prompt, unless its address, a header or its body cannot be sent. A user in the
address takes the place of the key. -/
def request (client : Client) (library : HttpLibrary) (system prompt : LooseText) :
    Except CompletionFailure HttpRequest :=
  match library.address (dropSlashes client.baseUrl) "chat/completions" with
  | .error error => .error (failureOf error)
  | .ok url =>
    let body := client.payload system prompt
    match client.headerFault?, library.bodyFault? body with
    | some error, _ => .error (.enhancement (.invalidJson error.message))
    | none, some text => .error (.enhancement (.invalidJson text))
    | none, none =>
      let authorization : LooseText := match url.credentials? with
        | some credentials => credentials
        | none => client.authorization
      .ok ⟨"POST", url, authorization, client.sentReferer, "application/json", body⟩

end Client

/-- The number of code points of a body that an error shows. The rest of the body is left out
without a sign of it. -/
def shownLength : Nat := 400

/-- The content of the first choice of a response, if it is a string. Anything else on the way to
it, also an empty list of choices, means that there is none. -/
def content? (value : Json) : Option LooseText :=
  match value.get? "choices" with
  | some (.arr (choice :: _)) =>
    match (choice.get? "message").bind (·.get? "content") with
    | some (.str content) => some content
    | _ => none
  | _ => none

/-- The reply that the body of a successful response holds. A body that is nested too deeply is a
fault that nothing reports; all others are enhancement errors. -/
def readBody (depth : Nat) (body : List UInt8) : Except CompletionFailure LooseText :=
  match Text.Encoding.decodeDocument body with
  | .error error => .error (.enhancement (.invalidJson error.message))
  | .ok points =>
    match Json.parse depth (.ofPoints points) with
    | .error (.tooDeep inArray) => .error (.tooDeep (Json.ReadError.tooDeep inArray).message)
    | .error error => .error (.enhancement (.invalidJson error.message))
    | .ok value =>
      match content? value with
      | some content => .ok content
      | none => .error (.enhancement .noContent)

/-- The reply that a response holds. The body of one that reports no success is shown, if it can be
read as text. -/
def readResponse (library : HttpLibrary) (response : HttpResponse) :
    Except CompletionFailure LooseText :=
  if response.isSuccess then readBody library.depth response.body
  else
    match library.bodyText response with
    | .ok text => .error (.enhancement (.httpStatus response.status (text.take shownLength)))
    | .error message => .error (.undecodable message)

/-- What comes of a request for an address as a reply. The library takes a response in before its
status is looked at, and may refuse it. -/
def readExchange (library : HttpLibrary) (url : Url) : Exchange → Except CompletionFailure LooseText
  | .answered response =>
    match library.receive url response with
    | .error error => .error (failureOf error)
    | .ok body => readResponse library { response with body }
  | .raised error => .error (failureOf error)

/-- Answer a prompt over a network. Exactly one request is sent, or none where it cannot be put
together; nothing is tried again. -/
def Client.complete (client : Client) (library : HttpLibrary) (send : HttpRequest → Exchange) :
    Completer :=
  fun system prompt =>
    match client.request library system prompt with
    | .error failure => .error failure
    | .ok request => readExchange library request.url (send request)

end SourceAudit.OpenRouter
