import SourceAudit.Enhancement.Completion
import SourceAudit.Json.Display
import SourceAudit.Network.Exchange

/-!
# The Gemini client

A prompt becomes a request for generated content; the reply is the generated text, which must not be
empty.
-/

namespace SourceAudit.Gemini

open Decimal (Binary64)

/-- A request for generated content. The key is not part of it, as the library has it from the
start. -/
structure Request where
  model : LooseText
  contents : LooseText
  instruction : LooseText
  temperature : Binary64

/-- What comes of a request: a text or none, an error that the service reports, or an error of the
transport. -/
inductive Generation
  | text (text : Option LooseText)
  | refused (code : Json) (details : Json)
  | raised (error : TransportError)

/-- How freely the model may answer, which is hardly. It is the floating-point number nearest to a
tenth. -/
def temperature : Binary64 := .ofRatio false 1 10

/-- The request for a prompt. -/
def request (model system prompt : LooseText) : Request :=
  ⟨model, prompt, system, temperature⟩

/-- The details of an error; a list of one is that one. Every other value stays as it is, longer
lists among them. -/
def detailsOf : Json → Json
  | .arr [details] => details
  | details => details

/-- The status of an error: its own, or that of the error within it. Details that are no object have
none, and neither have those whose error within is no object. -/
def statusOf (details : Json) : Json :=
  match (details.get? "error").getD (.obj []) with
  | .obj inner =>
    ((details.get? "status").or ((Json.obj inner).get? "status")).getD .null
  | _ => .null

/-- The wording of an error that the service reports: its code, its status and all of its details. -/
def refusalText (code details : Json) : LooseText :=
  let details := detailsOf details
  code.display ++ " " ++ (statusOf details).display ++ ". " ++ details.display

/-- What comes of a request as a reply. An empty text is none; errors of the connection are reported
as enhancement errors, the others pass through. -/
def readGeneration : Generation → Except CompletionFailure LooseText
  | .text none => .error (.enhancement .emptyGeneration)
  | .text (some text) =>
    if text = "" then .error (.enhancement .emptyGeneration) else .ok text
  | .refused code details => .error (.enhancement (.generationFailed (refusalText code details)))
  | .raised ⟨.connection, text⟩ => .error (.enhancement (.generationFailed text))
  | .raised ⟨.invalidUrl, text⟩ => .error (.invalidUrl text)
  | .raised ⟨.badValue, text⟩ => .error (.badValue text)

/-- Answer a prompt over a network. -/
def complete (model : LooseText) (generate : Request → Generation) : Completer :=
  fun system prompt => readGeneration (generate (request model system prompt))

end SourceAudit.Gemini
