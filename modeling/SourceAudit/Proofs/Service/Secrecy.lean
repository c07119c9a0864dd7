import SourceAudit.Proofs.Network.Header
import SourceAudit.Proofs.Service.Enhancement

/-!
# What callers are told about a key

Two clients that differ in their keys only are told apart by nothing but the fault of a header: with the
same exchange they end alike if neither request is refused, or if both are refused with the same wording
(`OpenRouter.Client.complete_eq_of_conceals`), and otherwise some exchange makes both end with enhancement
errors that are worded differently (`OpenRouter.Client.exists_exchange_of_not_conceals`). The same holds
of the answers of two services (`key_concealed_iff`), and of every library that sends the requests, since
none is ever shown the key.
-/

namespace SourceAudit

open Text (EncodeError asciiFault? isBeyondAscii)

/-- What a caller is told about a completion: the reply, or the wording of the failure. Nothing else
of a failure is shown. -/
def told (result : Except CompletionFailure LooseText) : Except LooseText LooseText :=
  result.mapError CompletionFailure.message

namespace OpenRouter.Client

variable {client : Client} {library : HttpLibrary} {url : Url} {system prompt key other : LooseText}

/-- A client with another key. -/
def withKey (client : Client) (key : LooseText) : Client :=
  { client with apiKey := key }

/-- Whether two keys of a client cannot be told apart: the address is refused before any header is looked
at, or the requests with the two keys are both sent, or both refused with the same wording. -/
def Conceals (client : Client) (library : HttpLibrary) (system prompt key other : LooseText) : Prop :=
  (∃ error, client.address library = .error error) ∨
    (client.withKey key).fault? library system prompt =
      (client.withKey other).fault? library system prompt

/-- The fault of the headers is that of the authorization, or else that of the referer. -/
theorem headerFault?_eq (client : Client) :
    client.headerFault? =
      (asciiFault? client.authorization).or (client.sentReferer.bind asciiFault?) := by
  rw [headerFault?, headers, List.findSome?_cons]
  cases asciiFault? client.authorization with
  | some fault => rfl
  | none => cases client.sentReferer <;> simp

/-- The fault that shows is that of the key, moved behind the kind of the authorization, or else that of
the referer. -/
theorem headerFault?_withKey (client : Client) (key : LooseText) :
    (client.withKey key).headerFault? =
      ((asciiFault? key).map fun fault => .ofAscii (fault.position + 7) fault.stretch).or
        (client.sentReferer.bind asciiFault?) := by
  have plain : asciiFault? "Bearer " = none := by decide +kernel
  have seven : (LooseText.points "Bearer ").length = 7 := by decide +kernel
  rw [headerFault?_eq, authorization, Text.asciiFault?_append plain, seven]
  rfl

/-- The faults of headers are worded alike exactly when they show the same, or both are missing. -/
theorem map_message_headerFault?_eq_iff (client second : Client) :
    client.headerFault?.map EncodeError.message = second.headerFault?.map EncodeError.message ↔
      Option.Rel EncodeError.ShowAlike client.headerFault? second.headerFault? := by
  cases faulty : client.headerFault? with
  | none =>
      cases second.headerFault? with
      | none => exact iff_of_true rfl .none
      | some fault => exact iff_of_false nofun nofun
  | some fault =>
      cases otherFaulty : second.headerFault? with
      | none => exact iff_of_false nofun nofun
      | some otherFault =>
          obtain ⟨header, -, shown⟩ := List.exists_of_findSome?_eq_some faulty
          obtain ⟨otherHeader, -, otherShown⟩ := List.exists_of_findSome?_eq_some otherFaulty
          rw [Option.map_some, Option.map_some, Option.some_inj,
            EncodeError.message_eq_iff shown otherShown]
          exact ⟨.some, fun | .some alike => alike⟩

/-- What comes of the same exchange for every request depends on what the request is refused for only. -/
theorem complete_canned (located : client.address library = .ok url) (exchange : Exchange)
    (system prompt : LooseText) :
    client.complete library (fun _ => exchange) system prompt =
      match client.fault? library system prompt with
      | some text => .error (.enhancement (.invalidJson text))
      | none => readExchange library url exchange := by
  rw [complete]
  rcases client.request_cases library system prompt with
    ⟨error, refused, -⟩ | ⟨other, text, -, faulty, request⟩ |
    ⟨other, sent, same, sound, request, rfl⟩
  · cases located.symm.trans refused
  · rw [request, faulty]
  · rw [request, sound]
    cases located.symm.trans same
    rfl

theorem complete_refused {error : TransportError} (refused : client.address library = .error error)
    (send : HttpRequest → Exchange) (system prompt : LooseText) :
    client.complete library send system prompt = .error (failureOf error) := by
  rw [address] at refused
  rw [complete, request, refused]

/-- Keys that are concealed make no difference. -/
theorem complete_eq_of_conceals (conceals : client.Conceals library system prompt key other)
    (exchange : Exchange) :
    (client.withKey key).complete library (fun _ => exchange) system prompt =
      (client.withKey other).complete library (fun _ => exchange) system prompt := by
  cases located : client.address library with
  | error error =>
      have keyed (key : LooseText) : (client.withKey key).address library = .error error := located
      rw [complete_refused (keyed key), complete_refused (keyed other)]
  | ok url =>
      have keyed (key : LooseText) : (client.withKey key).address library = .ok url := located
      rw [complete_canned (keyed key), complete_canned (keyed other)]
      rcases conceals with ⟨error, refused⟩ | same
      · cases located.symm.trans refused
      · rw [same]

/-- A request that is refused for a header is refused with Unicode text, and one that is not for what the
library says of its body, which is the same with every key. -/
theorem fault?_cases (client : Client) (library : HttpLibrary) (system prompt key : LooseText) :
    (∃ text : String, (client.withKey key).fault? library system prompt = some ↑text) ∨
      (client.withKey key).fault? library system prompt =
        library.bodyFault? (client.payload system prompt) := by
  rw [fault?]
  cases (client.withKey key).headerFault? with
  | some error => exact .inl ⟨error.message, rfl⟩
  | none => exact .inr rfl

/-- Two texts that differ, or of which one is missing, also differ for some string in place of a missing
one. -/
theorem exists_getD_ne {first second : Option LooseText} (apart : first ≠ second) :
    ∃ text : String, first.getD text ≠ second.getD text := by
  have avoided (given : LooseText) : ∃ text : String, (text : LooseText) ≠ given := by
    by_cases empty : ("" : LooseText) = given
    · exact ⟨"!", fun same => absurd (empty.trans same.symm) (by decide)⟩
    · exact ⟨"", empty⟩
  cases first with
  | none =>
      cases second with
      | none => exact (apart rfl).elim
      | some given => exact avoided given
  | some given =>
      cases second with
      | none =>
          obtain ⟨text, differs⟩ := avoided given
          exact ⟨text, differs.symm⟩
      | some other => exact ⟨"", fun same => apart (congrArg some same)⟩

/-- Keys that are not concealed are told apart by some exchange, in the wording of an error. At least one
of the two wordings is Unicode text. -/
theorem exists_exchange_of_not_conceals (reveals : ¬ client.Conceals library system prompt key other) :
    ∃ exchange error otherError,
      (client.withKey key).complete library (fun _ => exchange) system prompt =
        .error (.enhancement error) ∧
      (client.withKey other).complete library (fun _ => exchange) system prompt =
        .error (.enhancement otherError) ∧
      error.message ≠ otherError.message ∧
      (error.message.isUnicode || otherError.message.isUnicode) = true := by
  rw [Conceals, not_or] at reveals
  obtain ⟨accepted, apart⟩ := reveals
  cases located : client.address library with
  | error error => exact (accepted ⟨error, located⟩).elim
  | ok url =>
      obtain ⟨text, differs⟩ := exists_getD_ne apart
      let told (key : LooseText) : LooseText :=
        ((client.withKey key).fault? library system prompt).getD text
      have ends (key : LooseText) :
          (client.withKey key).complete library (fun _ => .raised ⟨.badValue, text⟩) system prompt =
            .error (.enhancement (.invalidJson (told key))) := by
        have keyed : (client.withKey key).address library = .ok url := located
        rw [complete_canned keyed]
        simp only [told]
        cases (client.withKey key).fault? library system prompt <;> rfl
      -- If neither request is refused for a header, both are refused alike or not at all.
      have unicode : ((told key).isUnicode || (told other).isUnicode) = true := by
        simp only [told, Bool.or_eq_true]
        rcases client.fault?_cases library system prompt key with ⟨text, faulty⟩ | own
        · exact .inl (by rw [faulty]; rfl)
        · rcases client.fault?_cases library system prompt other with ⟨text, faulty⟩ | otherOwn
          · exact .inr (by rw [faulty]; rfl)
          · exact (apart (own.trans otherOwn.symm)).elim
      refine ⟨.raised ⟨.badValue, text⟩, _, _, ends key, ends other, fun same => differs ?_, ?_⟩
      · exact LooseText.append_right_inj.mp same
      · simpa only [EnhancementError.message, LooseText.isUnicode_append, LooseText.isUnicode_unicode,
          Bool.true_and] using unicode

/-- The same is told with two keys, whatever comes of the requests, if they are concealed. -/
theorem told_eq_iff (client : Client) (library : HttpLibrary) (system prompt key other : LooseText) :
    (∀ exchange,
      told ((client.withKey key).complete library (fun _ => exchange) system prompt) =
        told ((client.withKey other).complete library (fun _ => exchange) system prompt)) ↔
      client.Conceals library system prompt key other := by
  constructor
  · intro same
    by_contra reveals
    obtain ⟨exchange, error, otherError, ends, otherEnds, differs, -⟩ :=
      exists_exchange_of_not_conceals reveals
    have equal := same exchange
    rw [ends, otherEnds] at equal
    exact differs (Except.error.inj equal)
  · intro conceals exchange
    rw [complete_eq_of_conceals conceals]

/-- Where the body can be encoded, keys are told apart by the faults of the headers only. -/
theorem conceals_iff_rel (encoded : library.bodyFault? (client.payload system prompt) = none) :
    client.Conceals library system prompt key other ↔
      (∃ error, client.address library = .error error) ∨
        Option.Rel EncodeError.ShowAlike (client.withKey key).headerFault?
          (client.withKey other).headerFault? := by
  have shown (key : LooseText) : (client.withKey key).fault? library system prompt =
      ((client.withKey key).headerFault?.map EncodeError.message).map LooseText.unicode := by
    change (((client.withKey key).headerFault?.map fun error => (error.message : LooseText)).or
      (library.bodyFault? (client.payload system prompt))) = _
    rw [encoded, Option.or_none, Option.map_map]
    rfl
  have injective : Function.Injective LooseText.unicode := fun _ _ => LooseText.unicode_inj.mp
  rw [Conceals, shown, shown, (Option.map_injective injective).eq_iff, map_message_headerFault?_eq_iff]

/-- Keys in ASCII are concealed. -/
theorem conceals_of_ascii (client : Client) (library : HttpLibrary) (system prompt : LooseText)
    (ascii : ∀ point ∈ key.points, isBeyondAscii point = false)
    (otherAscii : ∀ point ∈ other.points, isBeyondAscii point = false) :
    client.Conceals library system prompt key other := by
  refine .inr ?_
  rw [fault?, fault?, headerFault?_withKey, headerFault?_withKey,
    Text.asciiFault?_eq_none_iff.mpr ascii, Text.asciiFault?_eq_none_iff.mpr otherAscii]
  rfl

/-- Keys beyond ASCII are concealed if their faults show the same. -/
theorem conceals_iff_showAlike {fault otherFault : EncodeError}
    (located : client.address library = .ok url) (faulty : asciiFault? key = some fault)
    (otherFaulty : asciiFault? other = some otherFault) (system prompt : LooseText) :
    client.Conceals library system prompt key other ↔ fault.ShowAlike otherFault := by
  have shown {key : LooseText} {fault : EncodeError} (faulty : asciiFault? key = some fault) :
      (client.withKey key).headerFault? = some (.ofAscii (fault.position + 7) fault.stretch) := by
    rw [headerFault?_withKey, faulty, Option.map_some, Option.some_or]
  have moved : Option.Rel EncodeError.ShowAlike (client.withKey key).headerFault?
      (client.withKey other).headerFault? ↔ fault.ShowAlike otherFault := by
    rw [shown faulty, shown otherFaulty]
    constructor
    · rintro ⟨position, length, single⟩
      exact ⟨Nat.add_right_cancel position, length, single⟩
    · rintro ⟨position, length, single⟩
      exact .some ⟨congrArg (· + 7) position, length, single⟩
  rw [← moved, ← map_message_headerFault?_eq_iff, Conceals, fault?, fault?, shown faulty,
    shown otherFaulty]
  constructor
  · rintro (⟨error, refused⟩ | same)
    · cases located.symm.trans refused
    · exact congrArg some (LooseText.unicode_inj.mp (Option.some.inj same))
  · intro same
    exact .inr (congrArg some (congrArg LooseText.unicode (Option.some.inj same)))

end OpenRouter.Client

namespace Service

variable {service : Service} {request : Request} {asked : EnhanceRequest} {library : HttpLibrary}

/-- A service whose settings ask for a client, with whatever key. -/
def AsksThrough (service : Service) (client : OpenRouter.Client) : Prop :=
  ∃ config, service.Enhances config ∧ Client.of config = .openRouter client

/-- Two services with the same surroundings: a library, the origins that may call, and a limit for the
nesting of bodies. -/
structure Surrounded (service : Service) (library : HttpLibrary) (origins : List String) (depth : Nat) :
    Prop where
  library : service.network.library = library
  origins : service.origins = origins
  depth : service.depth = depth

/-- A service with the same exchange for every request to a client, so that nothing of a request
comes back but by the service itself. -/
def withExchange (service : Service) (exchange : Exchange) : Service :=
  { service with network := { service.network with send := fun _ => exchange } }

/-- A service that asks through a client answers with what comes of the client's request. -/
theorem response_of_asksThrough {client : OpenRouter.Client} {origins : List String} {depth : Nat}
    (through : service.AsksThrough client) (surrounded : service.Surrounded library origins depth)
    (asks : AsksToEnhance depth request asked) (exchange : Exchange) (stamp : Stamp)
    (scanId : String) :
    ((service.withExchange exchange).handle stamp scanId request).2 =
      respond origins request
        (runEnhance (client.complete library fun _ => exchange) asked).sent := by
  obtain ⟨config, ⟨unset, configured⟩, same⟩ := through
  obtain ⟨rfl, rfl, rfl⟩ := surrounded
  have enhances : (service.withExchange exchange).Enhances config := ⟨unset, configured⟩
  have canned : (Client.openRouter client).complete (service.withExchange exchange).network =
      client.complete service.network.library fun _ => exchange := rfl
  rw [handle_of_asksToEnhance enhances asks, same, canned]
  rfl

variable {prompt : LooseText}

/-- An enhancement error is answered with its wording. -/
theorem runEnhance_of_failure {complete : Completer} {error : EnhancementError}
    (written : Prompt.build asked.code asked.fileName asked.findings = some prompt)
    (failed : complete Prompt.system prompt = .error (.enhancement error)) :
    runEnhance complete asked = .detail 502 ("Enhancement failed: " ++ error.message) := by
  rw [runEnhance, enhance, written]
  dsimp only
  rw [failed]

/-- The answer depends on the completion only. -/
theorem runEnhance_congr {complete other : Completer}
    (written : Prompt.build asked.code asked.fileName asked.findings = some prompt)
    (same : complete Prompt.system prompt = other Prompt.system prompt) :
    runEnhance complete asked = runEnhance other asked := by
  rw [runEnhance, runEnhance, enhance, enhance, written]
  dsimp only
  rw [same]

/-- Answers that say what is wrong differ if what they say differs, unless neither can be sent. -/
theorem respond_detail_inj {origins : List String} {text other : LooseText}
    (method : request.method = "POST") (unicode : (text.isUnicode || other.isUnicode) = true)
    (same : respond origins request (Outcome.detail 502 text).sent =
      respond origins request (Outcome.detail 502 other).sent) : text = other := by
  have sendable (text : LooseText) :
      (Json.obj [("detail", .str text)]).isSendable = text.isUnicode := by
    simp [Json.isSendable, Json.passes, Json.membersPass]
  have statuses := congrArg Response.status same
  simp only [Outcome.detail, status_respond_sent, sendable] at statuses
  have asked : request.method ≠ "HEAD" := by
    rw [method]
    decide
  cases whole : text.isUnicode with
  | false => cases otherWhole : other.isUnicode <;> simp [whole, otherWhole] at statuses unicode
  | true =>
      cases otherWhole : other.isUnicode with
      | false => simp [whole, otherWhole] at statuses
      | true =>
          rw [Outcome.detail, Outcome.detail, sent_of_sendable ((sendable text).trans whole),
            sent_of_sendable ((sendable other).trans otherWhole), respond_of_method asked,
            respond_of_method asked] at same
          injection same with _ content
          injection content with value
          simpa using value

/-- Two services that ask through the same client with two keys answer alike, whatever comes of their
requests, if the keys are concealed. -/
theorem response_eq_iff {first second : Service} {client : OpenRouter.Client}
    {origins : List String} {depth : Nat} {key other : LooseText}
    (through : first.AsksThrough (client.withKey key))
    (otherThrough : second.AsksThrough (client.withKey other))
    (surrounded : first.Surrounded library origins depth)
    (otherSurrounded : second.Surrounded library origins depth)
    (asks : AsksToEnhance depth request asked)
    (written : Prompt.build asked.code asked.fileName asked.findings = some prompt)
    (stamp : Stamp) (scanId : String) :
    (∀ exchange, ((first.withExchange exchange).handle stamp scanId request).2 =
      ((second.withExchange exchange).handle stamp scanId request).2) ↔
      client.Conceals library Prompt.system prompt key other := by
  simp only [response_of_asksThrough through surrounded asks,
    response_of_asksThrough otherThrough otherSurrounded asks]
  constructor
  · intro same
    by_contra reveals
    obtain ⟨exchange, error, otherError, ends, otherEnds, differs, unicode⟩ :=
      OpenRouter.Client.exists_exchange_of_not_conceals reveals
    have equal := same exchange
    rw [runEnhance_of_failure written ends, runEnhance_of_failure written otherEnds] at equal
    refine differs (LooseText.append_right_inj.mp (respond_detail_inj asks.method ?_ equal))
    simpa only [LooseText.isUnicode_append, LooseText.isUnicode_unicode, Bool.true_and] using unicode
  · intro conceals exchange
    rw [runEnhance_congr written (OpenRouter.Client.complete_eq_of_conceals conceals exchange)]

end Service

open Service

/-- **When an answer tells nothing about the key.** Two keys of a client give the same reply, or the same
wording, whatever comes of the requests, exactly when they are concealed, and so do the answers of two
services that ask through the client. Where the body of the request can be encoded, that depends on the
faults of the headers only. Keys in ASCII are always concealed. Of two keys beyond ASCII an answer tells
where the first stretch beyond ASCII starts, how long it is, and the code point itself if it stands
alone. -/
theorem key_concealed_iff (client : OpenRouter.Client) (library : HttpLibrary)
    (key other : LooseText) :
    (∀ system prompt,
      ((∀ exchange,
        told ((client.withKey key).complete library (fun _ => exchange) system prompt) =
          told ((client.withKey other).complete library (fun _ => exchange) system prompt)) ↔
        client.Conceals library system prompt key other) ∧
      (library.bodyFault? (client.payload system prompt) = none →
        (client.Conceals library system prompt key other ↔
          (∃ error, client.address library = .error error) ∨
            Option.Rel EncodeError.ShowAlike (client.withKey key).headerFault?
              (client.withKey other).headerFault?)) ∧
      ((∀ point ∈ key.points, isBeyondAscii point = false) →
        (∀ point ∈ other.points, isBeyondAscii point = false) →
          client.Conceals library system prompt key other) ∧
      ∀ {url : Url} {fault otherFault : EncodeError}, client.address library = .ok url →
        asciiFault? key = some fault → asciiFault? other = some otherFault →
          (client.Conceals library system prompt key other ↔ fault.ShowAlike otherFault)) ∧
    ∀ {first second : Service} {origins : List String} {depth : Nat} {request : Request}
      {asked : EnhanceRequest} (stamp : Stamp) (scanId : String),
      first.AsksThrough (client.withKey key) → second.AsksThrough (client.withKey other) →
        first.Surrounded library origins depth → second.Surrounded library origins depth →
          AsksToEnhance depth request asked →
            ∃ prompt, Prompt.build asked.code asked.fileName asked.findings = some prompt ∧
              ((∀ exchange, ((first.withExchange exchange).handle stamp scanId request).2 =
                ((second.withExchange exchange).handle stamp scanId request).2) ↔
                client.Conceals library Prompt.system prompt key other) := by
  refine ⟨fun system prompt => ⟨OpenRouter.Client.told_eq_iff client library system prompt key other,
    OpenRouter.Client.conceals_iff_rel, OpenRouter.Client.conceals_of_ascii client library system prompt,
    fun located faulty otherFaulty =>
      OpenRouter.Client.conceals_iff_showAlike located faulty otherFaulty system prompt⟩, ?_⟩
  intro first second origins depth request asked stamp scanId through otherThrough surrounded
    otherSurrounded asks
  obtain ⟨prompt, written⟩ := asks.exists_prompt
  exact ⟨prompt, written,
    response_eq_iff through otherThrough surrounded otherSurrounded asks written stamp scanId⟩

/-- Two keys of one letter with different accents: the answer of the service shows the letter. -/
theorem key_revealed_accents :
    let network : Network :=
      ⟨.reading (fun _ => none) 993, fun _ => .raised ⟨.connection, ""⟩, fun _ => .text none⟩
    let client : OpenRouter.Client := ⟨"", Backend.openRouter.defaultModel,
      OpenRouter.dropSlashes "http://h", defaultTimeout, none⟩
    let service (key : String) := Service.start
      ⟨[("OPENROUTER_API_KEY", key), ("OPENROUTER_BASE_URL", "http://h")]⟩ ⟨[], []⟩ network 993 none
    let request : Request :=
      ⟨"POST", "/enhance", [],
        Json.write .spaced 0 (.obj [("code", .str "eval(x)"), ("filename", .str "a.js")])⟩
    let stamp : Stamp := ⟨"1", ⟨⟨2024, 2, 29, by decide⟩, .midnight, none⟩⟩
    (service "é").AsksThrough (client.withKey "é") ∧ (service "è").AsksThrough (client.withKey "è") ∧
    AsksToEnhance 993 request ⟨"eval(x)", "a.js", []⟩ ∧
    (∃ fault, asciiFault? "é" = some fault ∧ fault.stretch = ['é'.toNat]) ∧
    (∃ fault, asciiFault? "è" = some fault ∧ fault.stretch = ['è'.toNat]) ∧
    ¬ (∀ exchange, (((service "é").withExchange exchange).handle stamp "s" request).2 =
      (((service "è").withExchange exchange).handle stamp "s" request).2) := by
  intro network client service request stamp
  have through (key : String) (present : key = "é" ∨ key = "è") :
      (service key).AsksThrough (client.withKey key) ∧
        (service key).Surrounded network.library defaultOrigins 993 := by
    rcases present with rfl | rfl
    · exact ⟨⟨_, ⟨rfl, _, rfl, rfl⟩, rfl⟩, rfl, rfl, rfl⟩
    · exact ⟨⟨_, ⟨rfl, _, rfl, rfl⟩, rfl⟩, rfl, rfl, rfl⟩
  have asks : AsksToEnhance 993 request ⟨"eval(x)", "a.js", []⟩ :=
    asksToEnhance_write (by decide) "eval(x)" "a.js"
  have acute : asciiFault? "é" = some (.ofAscii 0 ['é'.toNat]) := by decide +kernel
  have grave : asciiFault? "è" = some (.ofAscii 0 ['è'.toNat]) := by decide +kernel
  obtain ⟨url, located⟩ : ∃ url, client.address network.library = .ok url := by
    have accepted : (client.address network.library).isOk = true := by decide +kernel
    cases located : client.address network.library with
    | ok url => exact ⟨url, rfl⟩
    | error error =>
        rw [located] at accepted
        cases accepted
  obtain ⟨keys, services⟩ := key_concealed_iff client network.library "é" "è"
  obtain ⟨first, surrounded⟩ := through "é" (.inl rfl)
  obtain ⟨second, otherSurrounded⟩ := through "è" (.inr rfl)
  obtain ⟨prompt, -, answers⟩ :=
    services stamp "s" first second surrounded otherSurrounded asks
  obtain ⟨-, -, -, shown⟩ := keys Prompt.system prompt
  refine ⟨first, second, asks, ⟨_, acute, rfl⟩, ⟨_, grave, rfl⟩, fun same => ?_⟩
  have alike := ((shown located acute grave).mp (answers.mp same)).single rfl
  exact absurd alike (by decide)

end SourceAudit
