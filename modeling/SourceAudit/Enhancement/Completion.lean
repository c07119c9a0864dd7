import SourceAudit.Enhancement.Fence
import SourceAudit.Enhancement.Prompt
import SourceAudit.Text.Occurrence

/-!
# Completions

A completer answers a system text and a prompt with a reply, or fails. Most failures are reported as
enhancement errors; the others pass through every layer above. Replies and messages may be loose texts,
as what a model or a transport says is not looked at any further.
-/

namespace SourceAudit

/-- Why a model gives no usable answer. These are the errors that callers expect, and that the
service answers as failures of what is behind it. -/
inductive EnhancementError
  | httpStatus (status : Nat) (detail : LooseText)
  | requestFailed (text : LooseText)
  | invalidJson (text : LooseText)
  | noContent
  | generationFailed (text : LooseText)
  | emptyGeneration
  | emptyResponse
  | reported (message : LooseText)
  deriving DecidableEq

/-- The wording of an enhancement error. It names the backend where the error comes from one, and
shows what the backend or the transport said. -/
def EnhancementError.message : EnhancementError → LooseText
  | .httpStatus status detail =>
    "OpenRouter returned HTTP " ++ Decimal.natText status ++ ": " ++ detail
  | .requestFailed text => "OpenRouter request failed: " ++ text
  | .invalidJson text => "OpenRouter returned invalid JSON: " ++ text
  | .noContent => "OpenRouter response has no message content"
  | .generationFailed text => "Gemini request failed: " ++ text
  | .emptyGeneration => "Gemini returned an empty response"
  | .emptyResponse => "Model returned an empty response"
  | .reported message => message

/-- How a completion fails: with an enhancement error, or with a fault that nothing turns into
one. -/
inductive CompletionFailure
  | enhancement (error : EnhancementError)
  | invalidUrl (message : LooseText)
  | badValue (message : LooseText)
  | tooDeep (message : LooseText)
  | undecodable (message : LooseText)
  deriving DecidableEq

/-- The wording of a failed completion. A fault that is no enhancement error is worded by what
raised it. -/
def CompletionFailure.message : CompletionFailure → LooseText
  | .enhancement error => error.message
  | .invalidUrl message | .badValue message | .tooDeep message | .undecodable message => message

/-- What answers a system text and a prompt: a client, or anything that is put in its place. -/
abbrev Completer := (system prompt : LooseText) → Except CompletionFailure LooseText

/-- The completer that answers with the code of the prompt, fenced. It takes what follows the first
marker, without the fence at the end. A prompt without a marker gets an empty answer. -/
def echo : Completer := fun _ prompt =>
  match Text.afterFirst? (LooseText.points Prompt.marker) prompt.points with
  | none => .ok ""
  | some code => .ok (Prompt.fenced (.ofPoints (Text.dropEnding (LooseText.points Prompt.closing) code)))

/-- The content of a reply, which must not be blank. A fence around the whole reply is taken off
before that is asked, so an empty block is no content either. -/
def usableReply (reply : LooseText) : Except CompletionFailure LooseText :=
  let code := Fence.strippedLoose reply
  if Text.isAllBlank code.shown.toList then .error (.enhancement .emptyResponse) else .ok code

/-- Ask for an improved version of a file. The prompt is written first; where that is not possible,
as a line number has too many digits, nothing is asked. -/
def enhance (complete : Completer) (code fileName : LooseText) (findings : List Finding) :
    Except CompletionFailure LooseText :=
  match Prompt.build code fileName findings with
  | none => .error (.badValue Decimal.tooLongMessage)
  | some prompt =>
    match complete Prompt.system prompt with
    | .error failure => .error failure
    | .ok reply => usableReply reply

end SourceAudit
