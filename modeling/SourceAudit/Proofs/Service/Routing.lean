import SourceAudit.Service.Basic

/-!
# What one request does

Only a valid request for a scan can change the state of the service: it is run as a scan
(`Service.handle_of_scanRequest?`). Any other request, whatever it is and however it is answered,
leaves the service as it was (`Service.handle_of_not_scan`). How a request is answered is looked at
before the answer is written, and what the writing changes is one case distinction (`status_respond_sent`).
-/

namespace SourceAudit.Service

variable {service : Service} {settings : Settings} {request : Request} {scan : ScanRequest} {depth : Nat}

/-- What a valid request for a scan asks for, where the JSON of a body may be nested up to a depth. -/
def scanRequest? (depth : Nat) (request : Request) : Option ScanRequest :=
  if request.method = "POST" ∧ request.path = "/scan" then
    match readBody depth request with
    | .ok body =>
      match checkBody ScanRequest.ofMembers body with
      | .valid scan => some scan
      | .invalid _ => none
    | .error _ => none
  else none

theorem scanRequest?_eq_some_iff :
    scanRequest? depth request = some scan ↔
      (request.method = "POST" ∧ request.path = "/scan") ∧
        ∃ body, readBody depth request = .ok body ∧ checkBody ScanRequest.ofMembers body = .valid scan := by
  rw [scanRequest?, Option.ite_none_right_eq_some]
  refine and_congr_right fun _ => ?_
  cases readBody depth request with
  | error error => simp
  | ok body =>
      cases checked : checkBody ScanRequest.ofMembers body with
      | valid other => simp [checked]
      | invalid issues => simp [checked]

theorem Endpoint.path_of_ofPath? {path : String} {endpoint : Endpoint}
    (found : Endpoint.ofPath? path = some endpoint) : endpoint.path = path := by
  have matching := List.find?_some found
  exact eq_of_beq matching

theorem preflight?_eq_none (method : request.method ≠ "OPTIONS") : preflight? request = none := by
  unfold preflight?
  cases request.header? "origin" with
  | none => rfl
  | some origin =>
      cases request.header? "access-control-request-method" with
      | none => rfl
      | some asked => simp [method]

theorem respond_of_method (method : request.method ≠ "HEAD") (origins : List String) (status : Nat)
    (content : Content) :
    respond origins request (.respond status content) =
      ⟨status, content, originHeaders origins request⟩ := by
  rw [respond, if_neg method]

@[simp]
theorem sent_of_sendable {status : Nat} {value : Json} (sendable : value.isSendable = true) :
    (Outcome.respond status (.json value)).sent = .respond status (.json value) := by
  rw [Outcome.sent, if_pos sendable]

@[simp]
theorem sent_of_not_sendable {status : Nat} {value : Json} (lost : value.isSendable = false) :
    (Outcome.respond status (.json value)).sent = .crash := by
  rw [Outcome.sent, lost, if_neg Bool.false_ne_true]

/-- The status of an answer that is a document: its own, if it can be sent, and that of an error
otherwise. -/
theorem status_respond_sent (origins : List String) (request : Request) (status : Nat) (value : Json) :
    (respond origins request (Outcome.respond status (.json value)).sent).status =
      if value.isSendable then status else 500 := by
  cases sendable : value.isSendable with
  | true => simp [sendable, respond]
  | false => simp [sendable, respond]

/-- A request that reaches its endpoint is answered there. -/
theorem handle_of_endpoint (service : Service) (endpoint : Endpoint)
    (method : request.method = endpoint.method) (path : request.path = endpoint.path)
    (stamp : Stamp) (scanId : String) :
    service.handle stamp scanId request =
      let (later, outcome) := service.answerRequest stamp scanId request endpoint
      (later, respond service.origins request outcome.sent) := by
  have plain : preflight? request = none := by
    apply preflight?_eq_none
    rw [method]
    cases endpoint <;> decide
  have found : Endpoint.ofPath? request.path = some endpoint := by
    rw [path]
    cases endpoint <;> decide
  rw [handle, plain]
  simp only [route, found, method, ↓reduceIte]

/-- A valid request for a scan is run as a scan. -/
theorem handle_of_scanRequest? (ready : service.settings = .ok settings)
    (asked : scanRequest? service.depth request = some scan) (stamp : Stamp) (scanId : String) :
    service.handle stamp scanId request =
      let (later, outcome) := service.runScan stamp scanId scan
      (later, respond service.origins request outcome.sent) := by
  obtain ⟨⟨method, path⟩, body, read, valid⟩ := scanRequest?_eq_some_iff.mp asked
  have takesBody : (Endpoint.scan == .scan || Endpoint.scan == .enhance) = true := by decide
  have reached := handle_of_endpoint service .scan method path stamp scanId
  simpa only [answerRequest, takesBody, ↓reduceIte, read, answerEndpoint, answerScan, ready, valid]
    using reached

/-- A request for the history is answered with what the store lists. -/
theorem handle_of_history (method : request.method = "GET") (path : request.path = "/history")
    (stamp : Stamp) (scanId : String) :
    service.handle stamp scanId request =
      (service, respond service.origins request service.answerHistory.sent) := by
  have reached := handle_of_endpoint service .history method path stamp scanId
  have noBody : (Endpoint.history == .scan || Endpoint.history == .enhance) = false := by decide
  simpa only [answerRequest, noBody, Bool.false_eq_true, ↓reduceIte, answerEndpoint] using reached

/-- An endpoint leaves the service as it was, unless it is asked for a scan in a valid way. -/
theorem answerEndpoint_of_not_scan {body : Body} {endpoint : Endpoint} (stamp : Stamp)
    (scanId : String)
    (notScan : endpoint = .scan → ∀ scan, checkBody ScanRequest.ofMembers body ≠ .valid scan) :
    (service.answerEndpoint stamp scanId body endpoint).1 = service := by
  cases endpoint with
  | health => rfl
  | enhance => rfl
  | history => rfl
  | scan =>
      rw [answerEndpoint, answerScan]
      split
      next => rfl
      next =>
        split
        next => rfl
        next scan valid => exact (notScan rfl scan valid).elim

/-- **A request that is no valid request for a scan leaves the service as it was.** -/
theorem handle_of_not_scan (other : scanRequest? service.depth request = none) (stamp : Stamp)
    (scanId : String) :
    (service.handle stamp scanId request).1 = service := by
  rw [handle]
  split
  next => rfl
  next =>
    change (service.route stamp scanId request).1 = service
    rw [route]
    split
    next endpoint found =>
      split
      next method =>
        rw [answerRequest]
        split
        next => rfl
        next => rfl
        next body read =>
          apply answerEndpoint_of_not_scan
          rintro rfl scan valid
          have asked : scanRequest? service.depth request = some scan :=
            scanRequest?_eq_some_iff.mpr
              ⟨⟨method.symm, (Endpoint.path_of_ofPath? found).symm⟩, body, read, valid⟩
          rw [other] at asked
          cases asked
      next => rfl
    next =>
      split
      next => rfl
      next => rfl

end SourceAudit.Service
