import SourceAudit.Network.Library
import SourceAudit.Proofs.Json.Members
import SourceAudit.Proofs.Json.RoundTrip
import SourceAudit.Proofs.Network.Settlement
import SourceAudit.Proofs.Text.Loose

/-!
# The reply in a response

The reply is looked for along a path through the value of the body (`replyPath`), where each step asks for a
member of an object or for an element of a list or a text, and fails on everything else. It gets to the end of
the path in values of one shape only (`follow_replyPath_eq_ok_iff`), and finds a reply there if the end is a text
(`Replies`), which is given back code point by code point. What a response reports can stay unread where the
library refuses the response or cannot show its body (`Hindered`); but for that a completion gives the reply,
says that there is none, or shows the status and the start of the body (`reply_exact`).
-/

namespace SourceAudit

namespace Json

/-- What a value can be asked for: a member by its name, or an element by its position. -/
inductive Step
  | member (name : LooseText)
  | element (position : Nat)

/-- Why a value does not have what it is asked for: the name or the position is missing, or values
of its kind cannot be asked so at all. -/
inductive StepFault
  | noMember
  | noElement
  | wrongKind

/-- What a value has under a name or at a position. Objects are asked by any key; lists and texts have
elements, those of a text being texts again. -/
def ask : Json → Step → Except StepFault Json
  | .obj members, .member name => (Members.get? members name).elim (.error .noMember) .ok
  | .obj _, .element _ => .error .noMember
  | .arr items, .element position => items[position]?.elim (.error .noElement) .ok
  | .str text, .element position =>
    text.points[position]?.elim (.error .noElement) fun point => .ok (.str (.ofPoints [point]))
  | _, _ => .error .wrongKind

/-- What is at the end of a path. -/
def follow (value : Json) (path : List Step) : Except StepFault Json :=
  path.foldlM ask value

variable {value found : Json} {name : LooseText} {members : Members} {first : Json}

theorem ask_member_eq_ok_iff :
    value.ask (.member name) = .ok found ↔
      ∃ members, value = .obj members ∧ Members.get? members name = some found := by
  cases value with
  | obj members =>
      rw [ask]
      cases present : Members.get? members name <;> simp [present]
  | _ => simp [ask]

/-- Only a list has an object as an element. -/
theorem ask_first_eq_obj_iff :
    value.ask (.element 0) = .ok (.obj members) ↔ ∃ others, value = .arr (.obj members :: others) := by
  cases value with
  | arr items => cases items <;> simp [ask]
  | str text => cases listed : text.points <;> simp [ask, listed]
  | _ => simp [ask]

theorem follow_cons_eq_ok_iff {step : Step} {path : List Step} :
    value.follow (step :: path) = .ok found ↔
      ∃ next, value.ask step = .ok next ∧ next.follow path = .ok found := by
  rw [follow, List.foldlM_cons]
  cases asked : value.ask step with
  | error fault => exact iff_of_false nofun nofun
  | ok next =>
      change next.follow path = .ok found ↔ _
      simp

theorem follow_nil_eq_ok_iff : value.follow [] = .ok found ↔ value = found :=
  iff_of_eq (Except.ok.injEq value found)

theorem get?_eq_some_iff :
    value.get? name = some found ↔
      ∃ members, value = .obj members ∧ Members.get? members name = some found := by
  cases value <;> simp [get?]

end Json

namespace OpenRouter

open Json (Members)

/-- Where a response holds its reply: at the end of four steps, each of which can fail in its own
way. -/
def replyPath : List Json.Step :=
  [.member "choices", .element 0, .member "message", .member "content"]

/-- A value holds a reply: the text that is the content of the message of the first of the choices. -/
inductive Replies : Json → LooseText → Prop
  | intro {members choice message : Members} {others : List Json} {reply : LooseText}
      (choices : members.get? "choices" = some (.arr (.obj choice :: others)))
      (chosen : choice.get? "message" = some (.obj message))
      (held : message.get? "content" = some (.str reply)) : Replies (.obj members) reply

variable {value content : Json} {reply : LooseText}

/-- The path ends somewhere in values of one shape only. -/
theorem follow_replyPath_eq_ok_iff :
    value.follow replyPath = .ok content ↔
      ∃ members choice others message, value = .obj members ∧
        Members.get? members "choices" = some (.arr (.obj choice :: others)) ∧
        Members.get? choice "message" = some (.obj message) ∧
        Members.get? message "content" = some content := by
  rw [replyPath]
  simp only [Json.follow_cons_eq_ok_iff, Json.follow_nil_eq_ok_iff]
  constructor
  · rintro ⟨listed, askedList, first, askedFirst, answer, askedAnswer, _, askedContent, rfl⟩
    -- What has a member is an object; so the first element is one, and it is an element of a list.
    obtain ⟨members, rfl, choices⟩ := Json.ask_member_eq_ok_iff.mp askedList
    obtain ⟨choice, rfl, chosen⟩ := Json.ask_member_eq_ok_iff.mp askedAnswer
    obtain ⟨others, rfl⟩ := Json.ask_first_eq_obj_iff.mp askedFirst
    obtain ⟨message, rfl, held⟩ := Json.ask_member_eq_ok_iff.mp askedContent
    exact ⟨members, choice, others, message, rfl, choices, chosen, held⟩
  · rintro ⟨members, choice, others, message, rfl, choices, chosen, held⟩
    exact ⟨_, Json.ask_member_eq_ok_iff.mpr ⟨members, rfl, choices⟩, _,
      Json.ask_first_eq_obj_iff.mpr ⟨others, rfl⟩, _,
      Json.ask_member_eq_ok_iff.mpr ⟨choice, rfl, chosen⟩, _,
      Json.ask_member_eq_ok_iff.mpr ⟨message, rfl, held⟩, rfl⟩

/-- A value holds a reply if the path ends at it. -/
theorem replies_iff_follow : Replies value reply ↔ value.follow replyPath = .ok (.str reply) := by
  rw [follow_replyPath_eq_ok_iff]
  constructor
  · rintro ⟨choices, chosen, held⟩
    exact ⟨_, _, _, _, rfl, choices, chosen, held⟩
  · rintro ⟨members, choice, others, message, rfl, choices, chosen, held⟩
    exact .intro choices chosen held

theorem content?_eq_some_iff : content? value = some reply ↔ Replies value reply := by
  constructor
  · intro found
    unfold content? at found
    split at found
    next choice others listed =>
      obtain ⟨members, rfl, choices⟩ := Json.get?_eq_some_iff.mp listed
      split at found
      next content held =>
        cases found
        obtain ⟨answer, answered, contained⟩ := Option.bind_eq_some_iff.mp held
        obtain ⟨choice, rfl, chosen⟩ := Json.get?_eq_some_iff.mp answered
        obtain ⟨message, rfl, content⟩ := Json.get?_eq_some_iff.mp contained
        exact .intro choices chosen content
      next => cases found
    next => cases found
  · rintro ⟨choices, chosen, held⟩
    simp only [content?, Json.get?, choices, chosen, held, Option.bind_some]

/-- The document of a successful response gives its reply, or the fault that there is none. -/
theorem readBody_of_parse {depth : Nat} {body : List UInt8} {points : List Nat}
    (decoded : Text.Encoding.decodeDocument body = .ok points)
    (parsed : Json.parse depth (.ofPoints points) = .ok value) :
    (∀ reply, readBody depth body = .ok reply ↔ Replies value reply) ∧
      ((∀ reply, ¬ Replies value reply) → readBody depth body = .error (.enhancement .noContent)) := by
  simp only [readBody, decoded, parsed, ← content?_eq_some_iff]
  cases found : content? value with
  | some reply => simp
  | none => simp

variable {library : HttpLibrary} {url : Url} {response : HttpResponse} {failure : CompletionFailure}

/-- What keeps a client from reading what a response reports, and the failure that comes of it. -/
inductive Hindered (library : HttpLibrary) (url : Url) (response : HttpResponse) :
    CompletionFailure → Prop
  /-- The library refuses the response. -/
  | refused {error : TransportError} (refuses : library.receive url response = .error error) :
      Hindered library url response (failureOf error)
  /-- The body of a response with an error status cannot be shown. -/
  | undecodable {body : List UInt8} {text : LooseText}
      (received : library.receive url response = .ok body) (shown : ¬ response.isSuccess)
      (hidden : library.bodyText { response with body } = .error text) :
      Hindered library url response (.undecodable text)

section Received

variable {body : List UInt8} (received : library.receive url response = .ok body)
include received

/-- The body of a successful response is read as a document. -/
theorem readExchange_of_isSuccess (success : response.isSuccess) :
    readExchange library url (.answered response) = readBody library.depth body := by
  rw [readExchange, received]
  exact if_pos success

/-- The body of another response is shown. -/
theorem readExchange_of_not_isSuccess (shown : ¬ response.isSuccess) :
    readExchange library url (.answered response) =
      match library.bodyText { response with body } with
      | .ok text => .error (.enhancement (.httpStatus response.status (text.take shownLength)))
      | .error message => .error (.undecodable message) := by
  rw [readExchange, received]
  exact if_neg shown

end Received

/-- A hindrance is the failure of the completion. -/
theorem readExchange_of_hindered (hindered : Hindered library url response failure) :
    readExchange library url (.answered response) = .error failure := by
  cases hindered with
  | refused refuses => rw [readExchange, refuses]
  | undecodable received shown hidden =>
      rw [readExchange_of_not_isSuccess received shown, hidden]

/-- A refusal of the library is no answer to a document. -/
theorem failureOf_ne_noContent (error : TransportError) :
    failureOf error ≠ .enhancement .noContent := by
  obtain ⟨fault, text⟩ := error
  cases fault <;> simp [failureOf]

/-- A successful response with a document is answered by what the value of the document holds, unless it is
hindered. The document is that of the body as the library takes it in, if it takes it in. -/
theorem extracts_iff_unhindered {body : List UInt8} {points : List Nat} (success : response.isSuccess)
    (taken : ∀ received, library.receive url response = .ok received → received = body)
    (decoded : Text.Encoding.decodeDocument body = .ok points)
    (parsed : Json.parse library.depth (.ofPoints points) = .ok value) :
    ((∀ reply, readExchange library url (.answered response) = .ok reply ↔ Replies value reply) ∧
      ((∀ reply, ¬ Replies value reply) →
        readExchange library url (.answered response) = .error (.enhancement .noContent))) ↔
      ¬ ∃ failure, Hindered library url response failure := by
  cases received : library.receive url response with
  | error error =>
      have failed := readExchange_of_hindered (.refused received)
      refine iff_of_false ?_ fun free => free ⟨_, .refused received⟩
      rintro ⟨replied, without⟩
      have none := without fun reply replies => by
        rw [(replied reply).mpr replies] at failed
        cases failed
      exact failureOf_ne_noContent error (Except.error.inj (failed.symm.trans none))
  | ok given =>
      obtain rfl := taken given received
      refine iff_of_true ?_ ?_
      · rw [readExchange_of_isSuccess received success]
        exact readBody_of_parse decoded parsed
      · rintro ⟨failure, refuses | ⟨-, shown, -⟩⟩
        · cases received.symm.trans refuses
        · exact shown success

/-- A response with an error status never gives a reply, and is answered by the status and the start of the
body unless it is hindered. -/
theorem shows_iff_unhindered (shown : ¬ response.isSuccess) :
    (∀ reply, readExchange library url (.answered response) ≠ .ok reply) ∧
      ((∃ body text detail, library.receive url response = .ok body ∧
        library.bodyText { response with body } = .ok text ∧ detail.points <+: text.points ∧
        detail.points.length = min 400 text.points.length ∧
        readExchange library url (.answered response) =
          .error (.enhancement (.httpStatus response.status detail))) ↔
        ¬ ∃ failure, Hindered library url response failure) := by
  cases received : library.receive url response with
  | error error =>
      rw [readExchange_of_hindered (.refused received)]
      refine ⟨nofun, iff_of_false ?_ fun free => free ⟨_, .refused received⟩⟩
      rintro ⟨body, text, detail, impossible, -⟩
      cases impossible
  | ok body =>
      cases decoded : library.bodyText { response with body } with
      | error message =>
          rw [readExchange_of_hindered (.undecodable received shown decoded)]
          refine ⟨nofun, iff_of_false ?_ fun free => free ⟨_, .undecodable received shown decoded⟩⟩
          rintro ⟨other, text, detail, same, impossible, -⟩
          cases same
          cases decoded.symm.trans impossible
      | ok text =>
          have read : readExchange library url (.answered response) =
              .error (.enhancement (.httpStatus response.status (text.take shownLength))) := by
            rw [readExchange_of_not_isSuccess received shown, decoded]
          rw [read]
          refine ⟨nofun, iff_of_true ⟨body, text, _, rfl, decoded, ?_, ?_, rfl⟩ ?_⟩
          · rw [LooseText.points_take]
            exact List.take_prefix _ _
          · rw [LooseText.points_take, List.length_take, shownLength]
          · rintro ⟨failure, refuses | ⟨taken, -, hidden⟩⟩
            · cases received.symm.trans refuses
            · cases received.symm.trans taken
              cases decoded.symm.trans hidden

/-- **The reply is extracted exactly.** A response that is not hindered gives what it reports: where it
reports success with a document, the completion ends with the reply that the value of the document holds, code
point by code point, and otherwise says that there is none; with another status it never ends with a reply,
but with the status and the first 400 code points of the body. A hindered response gives neither: the
completion fails for the hindrance. A value holds a reply if the path through it ends at a text, and of the
members of an object that are typed with one name the last counts. -/
theorem reply_exact (client : Client) (library : HttpLibrary) (send : HttpRequest → Exchange)
    (system prompt : LooseText) {request : HttpRequest} {response : HttpResponse}
    (sent : client.request library system prompt = .ok request)
    (answered : send request = .answered response) :
    let outcome := client.complete library send system prompt
    let hindered := ∃ failure, Hindered library request.url response failure
    (∀ failure, Hindered library request.url response failure → outcome = .error failure) ∧
      (∀ body points value, response.isSuccess →
        (∀ received, library.receive request.url response = .ok received → received = body) →
          Text.Encoding.decodeDocument body = .ok points →
            Json.parse library.depth (.ofPoints points) = .ok value →
              ((∀ reply, outcome = .ok reply ↔ Replies value reply) ∧
                ((∀ reply, ¬ Replies value reply) → outcome = .error (.enhancement .noContent)) ↔
                  ¬ hindered)) ∧
      (¬ response.isSuccess → (∀ reply, outcome ≠ .ok reply) ∧
        ((∃ body text detail, library.receive request.url response = .ok body ∧
          library.bodyText { response with body } = .ok text ∧ detail.points <+: text.points ∧
          detail.points.length = min 400 text.points.length ∧
          outcome = .error (.enhancement (.httpStatus response.status detail))) ↔ ¬ hindered)) ∧
      (∀ value reply, Replies value reply ↔ value.follow replyPath = .ok (.str reply)) ∧
      ∀ marks steps depth document members rest,
        Json.readValue marks steps depth document = .ok (.obj members, rest) →
          ∃ typed, Json.TypedObject marks steps depth document typed rest ∧
            ∀ name, Members.get? members name = Members.get? typed.reverse name := by
  intro outcome hindered
  have received : outcome = readExchange library request.url (.answered response) := by
    change client.complete library send system prompt = _
    simp only [Client.complete, sent, answered]
  rw [received]
  refine ⟨fun failure => readExchange_of_hindered, ?_, shows_iff_unhindered,
    fun value reply => replies_iff_follow, fun marks steps depth document members rest =>
      Json.get?_of_typed⟩
  intro body points value success taken decoded parsed
  exact extracts_iff_unhindered success taken decoded parsed

/-- A reply in a successful response, and a response with an error status that sends the client on to an
address that is no place to go to. -/
theorem reply_exact_stray_redirect :
    let library : HttpLibrary := .reading (fun _ => none) 993
    let client : Client := ⟨"k", "m", "https://h", defaultTimeout, none⟩
    let value : Json := .obj [("choices", .arr [.obj [("message", .obj [("content", .str "hi")])]])]
    let reply : HttpResponse := ⟨200, [], Text.Utf8.encode (Json.write .spaced 0 value)⟩
    let moved : HttpResponse := ⟨302, [("location", "mailto:x")], Text.Utf8.encode "moved".toList⟩
    client.complete library (fun _ => .answered reply) "s" "p" = .ok "hi" ∧
      client.complete library (fun _ => .answered moved) "s" "p" =
        .error (.invalidUrl UrlError.pathWithoutSlash.message) ∧
      ∀ detail, client.complete library (fun _ => .answered moved) "s" "p" ≠
        .error (.enhancement (.httpStatus 302 detail)) := by
  intro library client value reply moved
  let url : Url := ⟨"https".toList, [], "h".toList, none, "/chat/completions".toList, none, none⟩
  have located : (client.address library).toOption = some url := by decide +kernel
  have sound : client.fault? library "s" "p" = none := by decide +kernel
  obtain ⟨request, sent, goes⟩ : ∃ request, client.request library "s" "p" = .ok request ∧
      request.url = url := by
    rcases client.request_cases library "s" "p" with
      ⟨error, refused, -⟩ | ⟨-, text, -, faulty, -⟩ | ⟨-, request, address, -, sent, rfl⟩
    · rw [refused] at located
      cases located
    · cases sound.symm.trans faulty
    · rw [address] at located
      exact ⟨request, sent, Option.some.inj located⟩
  have received : library.receive url reply = .ok reply.body := rfl
  have refused : library.receive url moved =
      .error ⟨.invalidUrl, UrlError.pathWithoutSlash.message⟩ := by
    have located : moved.redirect? = some "mailto:x" := by decide +kernel
    have stray : HttpLibrary.redirectError? (fun _ => none) url "mailto:x" =
        some ⟨.invalidUrl, UrlError.pathWithoutSlash.message⟩ := by decide +kernel
    have accepted : url.startsWithScheme = true := by decide +kernel
    change HttpLibrary.receiveUnder _ url moved = _
    simp only [HttpLibrary.receiveUnder, accepted, located, Option.bind_some, stray, Bool.not_true,
      Bool.false_eq_true, ↓reduceIte]
  rw [← goes] at received refused
  have decoded : Text.Encoding.decodeDocument reply.body =
      .ok ((Json.write .spaced 0 value).map Char.toNat) := Json.decodeDocument_write _ _ _
  have parsed : Json.parse library.depth (.ofPoints ((Json.write .spaced 0 value).map Char.toNat)) =
      .ok value := by
    rw [Json.Source.ofPoints_toNat]
    exact Json.parse_write Json.Layout.isBlank_spaced (by decide +kernel)
  have free : ¬ ∃ failure, Hindered library request.url reply failure := by
    rintro ⟨failure, refuses | ⟨-, shown, -⟩⟩
    · cases received.symm.trans refuses
    · exact shown rfl
  obtain ⟨-, extracts, -⟩ := reply_exact client library (fun _ => .answered reply) "s" "p" sent rfl
  obtain ⟨fails, -⟩ := reply_exact client library (fun _ => .answered moved) "s" "p" sent rfl
  have failed := fails _ (.refused refused)
  refine ⟨?_, failed, ?_⟩
  · have taken : ∀ body, library.receive request.url reply = .ok body → body = reply.body :=
      fun body same => Except.ok.inj (same.symm.trans received)
    exact (((extracts _ _ _ rfl taken decoded parsed).mpr free).1 "hi").mpr (.intro rfl rfl rfl)
  · intro detail status
    cases failed.symm.trans status

end OpenRouter

end SourceAudit
