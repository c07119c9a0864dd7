import SourceAudit.Network.Library
import SourceAudit.Proofs.History.Document
import SourceAudit.Proofs.Network.Settlement
import SourceAudit.Proofs.Service.Routing

/-!
# How a request for an enhancement is answered

Every code that is Unicode text can be sent in a valid request for an enhancement
(`Service.asksToEnhance_write`). The findings of such a request are short enough for a prompt
(`Service.AsksToEnhance.exists_prompt`), and the client that the settings ask for answers it
(`Service.handle_of_asksToEnhance`). Its status tells how the completion ended
(`Service.status_runEnhance_iff`): it is 200 or 502 unless the client lets a fault escape or the answer
holds a lone surrogate, and 500 if one of these happens (`enhancement_settled_iff`).
-/

namespace SourceAudit

namespace Service

variable {service : Service} {config : EnhancerConfig} {request : Request} {asked : EnhanceRequest}
  {depth : Nat}

/-- A service whose settings hold a configuration of the enhancer, and where no completer takes the
place of its client. -/
structure Enhances (service : Service) (config : EnhancerConfig) : Prop where
  unset : service.completer = none
  configured : ∃ settings, service.settings = .ok settings ∧ settings.enhancerConfig = .ok config

/-- A valid request for an enhancement, where the JSON of a body may be nested up to a depth. What
it asks for is read from its body. -/
structure AsksToEnhance (depth : Nat) (request : Request) (asked : EnhanceRequest) : Prop where
  method : request.method = "POST"
  path : request.path = "/enhance"
  valid : ∃ body, readBody depth request = .ok body ∧
    checkBody EnhanceRequest.ofMembers body = .valid asked

/-- An object that is written as the body of a request without headers is read back. -/
theorem readBody_write {layout : Json.Layout} (blank : layout.IsBlank) {members : Json.Members}
    (plain : (Json.obj members).isPlain depth = true) (method target : String) :
    readBody depth ⟨method, target, [], Json.write layout 0 (.obj members)⟩ =
      .ok (.json (.obj members)) := by
  obtain ⟨second, rest, written, -⟩ := Json.exists_write_obj layout 0 members
  have present : (Json.write layout 0 (.obj members)).isEmpty = false := by
    rw [written]
    rfl
  simp [readBody, Request.header?, present, Json.decodeDocument_write, Json.Source.ofPoints_toNat,
    Json.parse_write blank plain]

/-- Every code can be sent under every name, if both are Unicode text. -/
theorem asksToEnhance_write (deep : 0 < depth) (code fileName : String) :
    AsksToEnhance depth
      ⟨"POST", "/enhance", [],
        Json.write .spaced 0 (.obj [("code", .str code), ("filename", .str fileName)])⟩
      ⟨code, fileName, []⟩ := by
  have path : String.ofList ("/enhance".toList.takeWhile (· != '?')) = "/enhance" := by
    decide +kernel
  refine ⟨rfl, path, _, readBody_write Json.Layout.isBlank_spaced ?_ _ _, rfl⟩
  simp [Json.isPlain, Json.membersArePlain, deep]

/-- The JSON value of a body holds no number that is too long to be written. -/
theorem writable_of_readBody {value : Json} (read : readBody depth request = .ok (.json value)) :
    value.Writable := by
  unfold readBody at read
  split at read
  · cases read
  split at read
  · cases read
  split at read
  · cases read
  split at read
  next parsed =>
    cases read
    exact Json.writable_of_parse parsed
  · cases read
  · cases read

/-- The findings of a valid request are short enough for a prompt. -/
theorem AsksToEnhance.exists_prompt (asks : AsksToEnhance depth request asked) :
    ∃ prompt, Prompt.build asked.code asked.fileName asked.findings = some prompt := by
  obtain ⟨-, -, body, read, valid⟩ := asks
  suffices writable : asked.findings.all Finding.isWritable = true by
    rw [Prompt.build, if_pos writable]
    exact ⟨_, rfl⟩
  cases body with
  | absent => cases valid
  | other => cases valid
  | json value =>
      cases writable_of_readBody read with
      | obj each =>
          change (EnhanceRequest.ofMembers _).within (.field "body") = .valid asked at valid
          simp only [Validation.Checked.within_eq_valid_iff, EnhanceRequest.ofMembers,
            Validation.Checked.ap_eq_valid_iff, Validation.Checked.map_eq_valid_iff,
            Validation.required_eq_valid_iff, Validation.withDefault_eq_valid_iff] at valid
          obtain ⟨_, findings, ⟨_, _, ⟨_, _, rfl⟩, _, rfl⟩, given, rfl⟩ := valid
          rcases given with ⟨field, present, listed⟩ | ⟨-, rfl⟩
          · exact Finding.areWritable_of_listOf (each _ (Validation.mem_of_get?_eq_some present)) listed
          · rfl
      | _ => cases valid

/-- A valid request for an enhancement is answered by the client of the configuration. -/
theorem handle_of_asksToEnhance (enhances : service.Enhances config)
    (asks : AsksToEnhance service.depth request asked) (stamp : Stamp) (scanId : String) :
    service.handle stamp scanId request =
      (service, respond service.origins request
        (runEnhance ((Client.of config).complete service.network) asked).sent) := by
  obtain ⟨unset, settings, ready, configured⟩ := enhances
  obtain ⟨method, path, body, read, valid⟩ := asks
  have takesBody : (Endpoint.enhance == .scan || Endpoint.enhance == .enhance) = true := by decide
  have found : service.findCompleter = .ok ((Client.of config).complete service.network) := by
    simp only [findCompleter, unset, ready, configured]
  have reached := handle_of_endpoint service .enhance method path stamp scanId
  simpa only [answerRequest, takesBody, ↓reduceIte, read, answerEndpoint, answerEnhance, found, valid]
    using reached

/-- What is left of a reply is an answer, or an enhancement error. -/
theorem isSettled_usableReply (reply : LooseText) : IsSettled (usableReply reply) := by
  rw [usableReply]
  split
  next => exact .failure _
  next => exact .reply _

/-- An attempt ends as its completion does. -/
theorem isSettled_enhance_iff {prompt : LooseText}
    (written : Prompt.build asked.code asked.fileName asked.findings = some prompt)
    (complete : Completer) :
    IsSettled (enhance complete asked.code asked.fileName asked.findings) ↔
      IsSettled (complete Prompt.system prompt) := by
  rw [enhance, written]
  dsimp only
  cases complete Prompt.system prompt with
  | error failure => rfl
  | ok reply => exact iff_of_true (isSettled_usableReply reply) (.reply reply)

/-- Answers to a request for an enhancement of a file that cannot be sent, as a text of theirs holds a
lone surrogate: the name of the file, the improved code, or the wording of an enhancement error. -/
inductive IsUnsendable (fileName : LooseText) : Except CompletionFailure LooseText → Prop
  | fileName (code : LooseText) (loose : fileName.isUnicode = false) : IsUnsendable fileName (.ok code)
  | code {code : LooseText} (loose : code.isUnicode = false) : IsUnsendable fileName (.ok code)
  | error {error : EnhancementError} (loose : error.message.isUnicode = false) :
      IsUnsendable fileName (.error (.enhancement error))

/-- A request is answered with status 200 or 502 if its completion is settled and the answer can be sent,
and with 500 otherwise. -/
theorem status_runEnhance_iff (origins : List String) (request : Request) (complete : Completer)
    (asked : EnhanceRequest) :
    let result := enhance complete asked.code asked.fileName asked.findings
    let status := (respond origins request (runEnhance complete asked).sent).status
    (status = 200 ∨ status = 502 ↔ IsSettled result ∧ ¬ IsUnsendable asked.fileName result) ∧
      (status = 500 ↔ ¬ IsSettled result ∨ IsUnsendable asked.fileName result) := by
  intro result status
  simp only [result, status, runEnhance]
  cases enhance complete asked.code asked.fileName asked.findings with
  | ok code =>
      have sendable : IsUnsendable asked.fileName (.ok code) ↔
          (asked.fileName.isUnicode && code.isUnicode) = false := by
        rw [Bool.and_eq_false_iff]
        constructor
        · rintro (⟨_, loose⟩ | loose)
          · exact .inl loose
          · exact .inr loose
        · exact fun loose => loose.elim (.fileName code) .code
      have body : (Json.obj [("filename", .str asked.fileName), ("enhanced_code", .str code)]).isSendable =
          (asked.fileName.isUnicode && code.isUnicode) := by
        simp [Json.isSendable, Json.passes, Json.membersPass]
      simp only [status_respond_sent, sendable, body]
      cases asked.fileName.isUnicode && code.isUnicode <;> simp
  | error failure =>
      cases failure with
      | enhancement error =>
          have sendable : IsUnsendable asked.fileName (.error (.enhancement error)) ↔
              error.message.isUnicode = false := by
            refine ⟨fun unsendable => ?_, .error⟩
            cases unsendable with
            | error loose => exact loose
          have body : (Json.obj
              [("detail", .str ("Enhancement failed: " ++ error.message))]).isSendable =
                error.message.isUnicode := by
            simp [Json.isSendable, Json.passes, Json.membersPass, LooseText.isUnicode_append]
          simp only [Outcome.detail, status_respond_sent, sendable, body]
          cases error.message.isUnicode <;> simp
      | _ => simp [respond, Outcome.sent]

end Service

open Service

/-- **When a completion ends as its callers expect.** Whatever the configuration, the network, the
instruction and the prompt, a client ends with a reply or an enhancement error unless it lets a fault
escape: its address is refused by a stray error, the transport or the library raises one, a successful
response is nested too deeply, or the body of another one cannot be shown. So a service that has a
configuration answers a valid request for an enhancement with status 200 or 502 exactly when no fault
escapes and the answer can be sent, and with status 500 otherwise. -/
theorem enhancement_settled_iff (config : EnhancerConfig) :
    (∀ (network : Network) (system prompt : LooseText),
      IsSettled ((Client.of config).complete network system prompt) ↔
        ¬ (Client.of config).Escapes network system prompt) ∧
    ∀ {service : Service} {request : Request} {asked : EnhanceRequest} (stamp : Stamp)
      (scanId : String), service.Enhances config → AsksToEnhance service.depth request asked →
        ∃ prompt, Prompt.build asked.code asked.fileName asked.findings = some prompt ∧
          let status := (service.handle stamp scanId request).2.status
          let escapes := (Client.of config).Escapes service.network Prompt.system prompt
          let unsendable := IsUnsendable asked.fileName
            (enhance ((Client.of config).complete service.network) asked.code asked.fileName
              asked.findings)
          (status = 200 ∨ status = 502 ↔ ¬ escapes ∧ ¬ unsendable) ∧
            (status = 500 ↔ escapes ∨ unsendable) := by
  refine ⟨fun network => Client.isSettled_complete_iff network (Client.of config), ?_⟩
  intro service request asked stamp scanId enhances asks
  obtain ⟨prompt, written⟩ := asks.exists_prompt
  refine ⟨prompt, written, ?_⟩
  intro status escapes unsendable
  have answered := handle_of_asksToEnhance enhances asks stamp scanId
  have statuses := status_runEnhance_iff service.origins request
    ((Client.of config).complete service.network) asked
  simp only [isSettled_enhance_iff written, Client.isSettled_complete_iff, Classical.not_not]
    at statuses
  simp only [status, answered]
  exact statuses

/-- A base address with a letter where a number should be: the client sends nothing, and the fault
escapes through the service. -/
theorem enhancement_unsettled_bad_address :
    let network : Network :=
      ⟨.reading (fun _ => none) 993, fun _ => .raised ⟨.connection, ""⟩, fun _ => .text none⟩
    let config : EnhancerConfig :=
      ⟨.openRouter, some "k", none, "http://h:x", defaultTimeout, none⟩
    let service := Service.start
      ⟨[("OPENROUTER_API_KEY", "k"), ("OPENROUTER_BASE_URL", "http://h:x")]⟩ ⟨[], []⟩ network 993 none
    let request : Request :=
      ⟨"POST", "/enhance", [],
        Json.write .spaced 0 (.obj [("code", .str "eval(x)"), ("filename", .str "a.js")])⟩
    let stamp : Stamp := ⟨"1", ⟨⟨2024, 2, 29, by decide⟩, .midnight, none⟩⟩
    service.Enhances config ∧ AsksToEnhance service.depth request ⟨"eval(x)", "a.js", []⟩ ∧
    (∃ prompt, Prompt.build "eval(x)" "a.js" [] = some prompt ∧
      ¬ IsSettled ((Client.of config).complete network Prompt.system prompt)) ∧
    (service.handle stamp "s" request).2.status = 500 := by
  intro network config service request stamp
  have enhances : service.Enhances config := ⟨rfl, _, rfl, rfl⟩
  have asks : AsksToEnhance service.depth request ⟨"eval(x)", "a.js", []⟩ :=
    asksToEnhance_write (by decide) "eval(x)" "a.js"
  have refused : ∃ error, network.library.address
      (OpenRouter.dropSlashes (OpenRouter.dropSlashes "http://h:x")) "chat/completions" =
        .error ⟨.invalidUrl, error⟩ := ⟨_, rfl⟩
  have escapes (prompt : LooseText) : (Client.of config).Escapes network Prompt.system prompt := by
    obtain ⟨error, refused⟩ := refused
    exact .inl ⟨_, refused, rfl⟩
  obtain ⟨settled, answered⟩ := enhancement_settled_iff config
  obtain ⟨prompt, written, -, crashed⟩ := answered stamp "s" enhances asks
  exact ⟨enhances, asks,
    ⟨prompt, written, fun ends => (settled network Prompt.system prompt).mp ends (escapes prompt)⟩,
    crashed.mpr (.inl (escapes prompt))⟩

end SourceAudit
