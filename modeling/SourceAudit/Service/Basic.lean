import SourceAudit.Report
import SourceAudit.Service.Body
import SourceAudit.Service.Origin
import SourceAudit.Settings

/-!
# The service

The service answers requests one after the other. Its state is the history store and the file tree
that the store may write to; `Service.handle` gives the state after a request and the response. A scan
is recorded before its response is written, so it is also recorded when the response cannot be sent.
-/

namespace SourceAudit

open Service

/-- The service between two requests. Only the store and the tree ever change; the rest is as it was
when the service started. -/
structure Service where
  settings : Except ConfigError Settings
  store : HistoryStore
  tree : FileTree
  network : Network
  /-- The origins that may call the service from a browser. -/
  origins : List String
  /-- How deep the JSON of a body may be nested. -/
  depth : Nat
  /-- What answers prompts in place of the client that the settings ask for. -/
  completer : Option Completer

namespace Service

/-- The service before its first request. Without settings there is no store to use, and no origin may
call. -/
def start (environment : Environment) (tree : FileTree) (network : Network) (depth : Nat)
    (completer : Option Completer) : Service :=
  let settings := Settings.ofEnvironment environment
  let (store, origins) := match settings with
    | .ok settings => (settings.historyStore, settings.corsOrigins)
    | .error _ => (.inMemory [], [])
  ⟨settings, store, tree, network, origins, depth, completer⟩

/-- The requests that the service answers. Each has a path of its own and one method. -/
inductive Endpoint
  | health
  | scan
  | enhance
  | history
  deriving DecidableEq

namespace Endpoint

/-- All endpoints. -/
def all : List Endpoint := [.health, .scan, .enhance, .history]

/-- The path of an endpoint. -/
def path : Endpoint → String
  | .health => "/health"
  | .scan => "/scan"
  | .enhance => "/enhance"
  | .history => "/history"

/-- The method of an endpoint. -/
def method : Endpoint → String
  | .health | .history => "GET"
  | .scan | .enhance => "POST"

/-- The endpoint at a path, which must be spelled exactly. -/
def ofPath? (path : String) : Option Endpoint :=
  all.find? (·.path == path)

end Endpoint

/-- Record the findings of a scan, under the identifier and the time of the stamp. The store and the
tree are those after the attempt. -/
def record (service : Service) (stamp : Stamp) (report : Report) :
    Service × Except HistoryError HistoryEntry :=
  let entry := HistoryEntry.new stamp report.fileName report.findings
  let (store, tree, outcome) := service.store.save service.tree entry
  ({ service with store, tree }, outcome)

/-- The report that a request for a scan asks for. The code is scanned as it is shown; the name
keeps its surrogates, and so does the report. -/
def ScanRequest.report (scan : ScanRequest) : Report :=
  Report.of scan.code.shown scan.fileName scan.selection

/-- Scan a file, and record the findings if the request says so. An error that the store reports
does not keep the findings from being answered. -/
def runScan (service : Service) (stamp : Stamp) (scanId : String) (request : ScanRequest) :
    Service × Outcome :=
  let answer : Outcome := .respond 200 (.json (request.report.toJson scanId))
  if request.saveHistory then
    match service.record stamp request.report with
    | (service, .ok _) => (service, answer)
    | (service, .error error) => (service, if error.isReported then answer else .crash)
  else (service, answer)

/-- Answer a request for a scan. Without settings there is no store to ask for, so the body is not
even checked. -/
def answerScan (service : Service) (stamp : Stamp) (scanId : String) (body : Body) :
    Service × Outcome :=
  match service.settings with
  | .error _ => (service, .crash)
  | .ok _ =>
    match checkBody ScanRequest.ofMembers body with
    | .invalid issues => (service, .unprocessable body.given issues)
    | .valid request => service.runScan stamp scanId request

/-- What answers prompts: the completer that is set, or the client that the settings ask for. A
configuration without the key that it needs is told as a service that is not available. -/
def findCompleter (service : Service) : Except Outcome Completer :=
  match service.completer with
  | some completer => .ok completer
  | none =>
    match service.settings with
    | .error _ => .error .crash
    | .ok settings =>
      match settings.enhancerConfig with
      | .ok config => .ok ((Client.of config).complete service.network)
      | .error error => .error (.detail 503 error.message)

/-- Improve a file. An enhancement error is answered as a failure of what is behind the service, any
other fault as one of the service. -/
def runEnhance (complete : Completer) (request : EnhanceRequest) : Outcome :=
  match enhance complete request.code request.fileName request.findings with
  | .ok code =>
    .respond 200
      (.json (.obj [("filename", .str request.fileName), ("enhanced_code", .str code)]))
  | .error (.enhancement error) => .detail 502 ("Enhancement failed: " ++ error.message)
  | .error _ => .crash

/-- Answer a request for an enhancement. What answers prompts is looked for before the body is
checked, so a missing key is told first. -/
def answerEnhance (service : Service) (body : Body) : Outcome :=
  match service.findCompleter with
  | .error outcome => outcome
  | .ok complete =>
    match checkBody EnhanceRequest.ofMembers body with
    | .invalid issues => .unprocessable body.given issues
    | .valid request => runEnhance complete request

/-- Answer a request for the history: all entries, the newest first. A history that cannot be read
is told as an error of the service. -/
def answerHistory (service : Service) : Outcome :=
  match service.settings with
  | .error _ => .crash
  | .ok _ =>
    match service.store.list service.tree with
    | .ok entries => .respond 200 (.json (.arr (entries.map HistoryEntry.toJson)))
    | .error error => if error.isReported then .detail 500 error.message else .crash

/-- Answer a request whose body has been read. -/
def answerEndpoint (service : Service) (stamp : Stamp) (scanId : String) (body : Body) :
    Endpoint → Service × Outcome
  | .health => (service, .respond 200 (.json (.obj [("status", .str "ok")])))
  | .scan => service.answerScan stamp scanId body
  | .enhance => (service, service.answerEnhance body)
  | .history => (service, service.answerHistory)

/-- Answer a request to an endpoint. A body that is no JSON is refused before anything else. -/
def answerRequest (service : Service) (stamp : Stamp) (scanId : String) (request : Request)
    (endpoint : Endpoint) : Service × Outcome :=
  let takesBody := endpoint == .scan || endpoint == .enhance
  match if takesBody then readBody service.depth request else .ok .absent with
  | .error (.malformed offset) =>
    (service, .unprocessable .null [⟨[.field "body", .item offset], .jsonInvalid⟩])
  | .error .unreadable => (service, .detail 400 "There was an error parsing the body")
  | .ok body => service.answerEndpoint stamp scanId body endpoint

/-- A path without the slashes at its end, all of them. -/
def withoutSlashes (path : String) : String :=
  String.ofList (path.toList.reverse.dropWhile (· == '/')).reverse

/-- Find what answers a request by its path and method. A path that only has slashes too many is
redirected. -/
def route (service : Service) (stamp : Stamp) (scanId : String) (request : Request) :
    Service × Outcome :=
  match Endpoint.ofPath? request.path with
  | some endpoint =>
    if endpoint.method = request.method then service.answerRequest stamp scanId request endpoint
    else (service, .detail 405 "Method Not Allowed")
  | none =>
    if request.path.endsWith "/" && (Endpoint.ofPath? (withoutSlashes request.path)).isSome then
      (service, .respond 307 (.text ""))
    else (service, .detail 404 "Not Found")

/-- The response to a request that has been answered. An error that nothing has turned into a
response says nothing about origins, and the answer to a request for headers has no content. -/
def respond (origins : List String) (request : Request) : Outcome → Response
  | .respond status content =>
    ⟨status, if request.method = "HEAD" then .text "" else content, originHeaders origins request⟩
  | .crash =>
    ⟨500, .text (if request.method = "HEAD" then "" else "Internal Server Error"),
      (request.header? "origin").map fun _ => ⟨none, none⟩⟩

/-- Answer one request, and give the service after it. A preflight request of a browser is answered
before anything looks at its path, and changes nothing. -/
def handle (service : Service) (stamp : Stamp) (scanId : String) (request : Request) :
    Service × Response :=
  match preflight? request with
  | some (origin, method) => (service, answerPreflight service.origins origin method)
  | none =>
    let (later, outcome) := service.route stamp scanId request
    (later, respond service.origins request outcome.sent)

end Service

end SourceAudit
