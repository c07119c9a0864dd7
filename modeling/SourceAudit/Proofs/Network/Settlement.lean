import Mathlib.Logic.Basic
import SourceAudit.Enhancement.Client

/-!
# How a completion ends

A completion should end with a reply or with an enhancement error (`IsSettled`). The client with an
address sends its request or refuses it before that (`OpenRouter.Client.request_cases`), and an
exchange is read in one of the ways that `OpenRouter.isSettled_readExchange_iff` tells apart. The
clients of both networks are put together in `Client.isSettled_complete_iff`: a completion ends
otherwise exactly when the client lets a fault escape (`Client.Escapes`). All of this holds whatever the
library does that lies between a client and the transport.
-/

namespace SourceAudit

/-- The ends of a completion that its callers expect: a reply, or an enhancement error. Any other
failure passes through them. -/
inductive IsSettled : Except CompletionFailure LooseText → Prop
  | reply (text : LooseText) : IsSettled (.ok text)
  | failure (error : EnhancementError) : IsSettled (.error (.enhancement error))

@[simp] theorem isSettled_ok (text : LooseText) : IsSettled (.ok text) := .reply text

@[simp] theorem isSettled_error_iff {failure : CompletionFailure} :
    IsSettled (.error failure) ↔ ∃ error, failure = .enhancement error := by
  constructor
  · rintro (_ | error)
    exact ⟨error, rfl⟩
  · rintro ⟨error, rfl⟩
    exact .failure error

/-- An error that is neither one of the connection nor one of a value. No client turns such an error
into one of its own. -/
def TransportError.IsStray (error : TransportError) : Prop :=
  error.fault = .invalidUrl

namespace OpenRouter

variable {library : HttpLibrary} {url : Url} {response : HttpResponse} {system prompt : LooseText}

/-- An error of the library or of the transport is an enhancement error unless it is stray. -/
@[simp] theorem exists_enhancement_failureOf_iff {error : TransportError} :
    (∃ reported, failureOf error = .enhancement reported) ↔ ¬ error.IsStray := by
  obtain ⟨fault, text⟩ := error
  rw [TransportError.IsStray]
  cases fault <;> simp [failureOf]

namespace Client

/-- The address that the requests of a client go to. -/
def address (client : Client) (library : HttpLibrary) : Except TransportError Url :=
  library.address (dropSlashes client.baseUrl) "chat/completions"

/-- Why a request cannot be sent to its address, if it cannot: a header is not ASCII, or its body cannot be
encoded. -/
def fault? (client : Client) (library : HttpLibrary) (system prompt : LooseText) : Option LooseText :=
  (client.headerFault?.map fun error => (error.message : LooseText)).or
    (library.bodyFault? (client.payload system prompt))

/-- A request is refused for its address, then for what it would carry, and sent to the address
otherwise. -/
theorem request_cases (client : Client) (library : HttpLibrary) (system prompt : LooseText) :
    (∃ error, client.address library = .error error ∧
        client.request library system prompt = .error (failureOf error)) ∨
      (∃ url text, client.address library = .ok url ∧
        client.fault? library system prompt = some text ∧
        client.request library system prompt = .error (.enhancement (.invalidJson text))) ∨
      ∃ url request, client.address library = .ok url ∧ client.fault? library system prompt = none ∧
        client.request library system prompt = .ok request ∧ request.url = url := by
  unfold request fault?
  rw [← address]
  cases client.address library with
  | error error => exact .inl ⟨error, rfl, rfl⟩
  | ok url =>
      dsimp only
      cases client.headerFault? with
      | some error => exact .inr (.inl ⟨url, _, rfl, rfl, rfl⟩)
      | none =>
          cases library.bodyFault? (client.payload system prompt) with
          | some text => exact .inr (.inl ⟨url, text, rfl, rfl, rfl⟩)
          | none => exact .inr (.inr ⟨url, _, rfl, rfl, rfl, rfl⟩)

end Client

/-- A body is decoded as a document that is nested too deeply. Its bytes are text, so that no error
of decoding comes before. -/
def IsTooDeep (depth : Nat) (body : List UInt8) : Prop :=
  ∃ points inArray, Text.Encoding.decodeDocument body = .ok points ∧
    Json.parse depth (.ofPoints points) = .error (.tooDeep inArray)

/-- What comes of a request that ends neither with a reply nor with an enhancement error. Each case
is one place of the client where an error is let through. -/
inductive Breaks (library : HttpLibrary) (url : Url) : Exchange → Prop
  /-- The transport raises a stray error. -/
  | raised {error : TransportError} (stray : error.IsStray) : Breaks library url (.raised error)
  /-- The library raises a stray error when it takes the response in. -/
  | refused {response : HttpResponse} {error : TransportError}
      (refuses : library.receive url response = .error error) (stray : error.IsStray) :
      Breaks library url (.answered response)
  /-- The response reports success, and its document is nested too deeply. -/
  | tooDeep {response : HttpResponse} {body : List UInt8}
      (received : library.receive url response = .ok body) (success : response.isSuccess = true)
      (deep : IsTooDeep library.depth body) : Breaks library url (.answered response)
  /-- The response reports an error, and its body cannot be shown. -/
  | undecodable {response : HttpResponse} {body : List UInt8} {text : LooseText}
      (received : library.receive url response = .ok body) (failure : response.isSuccess = false)
      (hidden : library.bodyText { response with body } = .error text) :
      Breaks library url (.answered response)

/-- A document of a successful response ends the completion otherwise only if it is nested too
deeply. -/
theorem isSettled_readBody_iff (depth : Nat) (body : List UInt8) :
    IsSettled (readBody depth body) ↔ ¬ IsTooDeep depth body := by
  unfold readBody IsTooDeep
  cases decoded : Text.Encoding.decodeDocument body with
  | error error => simp
  | ok points =>
      cases parsed : Json.parse depth (.ofPoints points) with
      | error error => cases error <;> simp [parsed]
      | ok value => cases found : content? value <;> simp [parsed, found]

theorem isSettled_readResponse_iff (response : HttpResponse) :
    IsSettled (readResponse library response) ↔
      if response.isSuccess then ¬ IsTooDeep library.depth response.body
      else ∀ text, library.bodyText response ≠ .error text := by
  unfold readResponse
  split
  next => exact isSettled_readBody_iff library.depth response.body
  next => cases library.bodyText response <;> simp

/-- An exchange ends with a reply or an enhancement error unless it breaks the completion. -/
theorem isSettled_readExchange_iff (library : HttpLibrary) (url : Url) (exchange : Exchange) :
    IsSettled (readExchange library url exchange) ↔ ¬ Breaks library url exchange := by
  cases exchange with
  | raised error =>
      rw [readExchange, isSettled_error_iff, exists_enhancement_failureOf_iff, not_iff_not]
      exact ⟨.raised, fun | .raised stray => stray⟩
  | answered response =>
      rw [readExchange]
      cases received : library.receive url response with
      | error error =>
          rw [isSettled_error_iff, exists_enhancement_failureOf_iff, not_iff_not]
          refine ⟨.refused received, ?_⟩
          rintro (_ | ⟨refuses, stray⟩ | ⟨taken, -, -⟩ | ⟨taken, -, -⟩)
          · cases received.symm.trans refuses
            exact stray
          · cases received.symm.trans taken
          · cases received.symm.trans taken
      | ok body =>
          rw [isSettled_readResponse_iff]
          change (if response.isSuccess then _ else _) ↔ _
          split
          next success =>
            rw [not_iff_not]
            refine ⟨.tooDeep received success, ?_⟩
            rintro (_ | ⟨refuses, -⟩ | ⟨taken, -, deep⟩ | ⟨-, failure, -⟩)
            · cases received.symm.trans refuses
            · cases received.symm.trans taken
              exact deep
            · rw [success] at failure
              cases failure
          next failure =>
            rw [Bool.not_eq_true] at failure
            constructor
            · rintro shown (_ | ⟨refuses, -⟩ | ⟨-, success, -⟩ | ⟨taken, -, hidden⟩)
              · cases received.symm.trans refuses
              · rw [failure] at success
                cases success
              · cases received.symm.trans taken
                exact shown _ hidden
            · exact fun whole text hidden => whole (.undecodable received failure hidden)

end OpenRouter

namespace Gemini

/-- What comes of a request for generated content that ends neither with a reply nor with an
enhancement error: an error of the transport that does not belong to the connection. -/
def Breaks (generation : Generation) : Prop :=
  ∃ error, generation = .raised error ∧ error.fault ≠ .connection

theorem isSettled_readGeneration_iff (generation : Generation) :
    IsSettled (readGeneration generation) ↔ ¬ Breaks generation := by
  cases generation with
  | text text =>
      refine iff_of_true ?_ nofun
      cases text with
      | none => exact .failure _
      | some text =>
          rw [readGeneration]
          split
          next => exact .failure _
          next => exact .reply text
  | refused code details => exact iff_of_true (.failure _) nofun
  | raised error =>
      obtain ⟨fault, text⟩ := error
      have raised : Breaks (.raised ⟨fault, text⟩) ↔ fault ≠ .connection := by
        simp [Breaks]
      rw [raised]
      cases fault <;> simp [readGeneration]

end Gemini

/-- Whether a client lets a fault escape: its address is refused by a stray error, or the request is sent
and what comes of it breaks the completion. -/
def Client.Escapes (network : Network) (client : Client) (system prompt : LooseText) : Prop :=
  match client with
  | .openRouter client =>
    (∃ error, client.address network.library = .error error ∧ error.IsStray) ∨
      ∃ request, client.request network.library system prompt = .ok request ∧
        OpenRouter.Breaks network.library request.url (network.send request)
  | .gemini _ model => Gemini.Breaks (network.generate (Gemini.request model system prompt))
  | .echo => False

/-- A completion ends with a reply or an enhancement error unless the client lets a fault escape. -/
theorem Client.isSettled_complete_iff (network : Network) (client : Client)
    (system prompt : LooseText) :
    IsSettled (client.complete network system prompt) ↔ ¬ client.Escapes network system prompt := by
  cases client with
  | openRouter client =>
      change IsSettled (client.complete network.library network.send system prompt) ↔ _
      rw [Escapes, OpenRouter.Client.complete]
      rcases client.request_cases network.library system prompt with
        ⟨error, located, refused⟩ | ⟨url, text, located, -, refused⟩ |
        ⟨url, request, located, -, sent, rfl⟩
      · simp [refused, located]
      · simp [refused, located]
      · simp [sent, located, OpenRouter.isSettled_readExchange_iff]
  | gemini key model => exact Gemini.isSettled_readGeneration_iff _
  | echo =>
      refine iff_of_true ?_ id
      change IsSettled (SourceAudit.echo system prompt)
      unfold SourceAudit.echo
      split
      next => exact .reply _
      next => exact .reply _

end SourceAudit
