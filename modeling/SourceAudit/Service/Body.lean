import SourceAudit.Finding.Validation
import SourceAudit.Json.Parser
import SourceAudit.Service.Message
import SourceAudit.Severity.Selection
import SourceAudit.Text.Blank
import SourceAudit.Text.Encoding
import SourceAudit.Text.Lines

/-!
# Request bodies

A body is read as JSON where its content type says so; other bodies are no objects. What a scan or an
enhancement needs is read from the members of the object.
-/

namespace SourceAudit.Service

open Validation

/-- A request body as it arrives: none, a JSON value, or something that its content type does not
call JSON. -/
inductive Body
  | absent
  | json (value : Json)
  | other

/-- Why a body cannot be read as JSON: malformed at a place, or beyond what is accepted. Bytes that
are no text and the limits of a reader are told alike. -/
inductive BodyError
  | malformed (offset : Nat)
  | unreadable

/-- Whether a content type is that of JSON, which its subtype is or ends with. Case and parameters
do not matter. -/
def isJsonType (contentType : String) : Bool :=
  let essence := (Text.trim (contentType.toList.takeWhile (· != ';'))).map Char.toLower
  match Text.splitOn '/' essence with
  | [kind, subtype] =>
    kind == "application".toList
      && (subtype == "json".toList || "+json".toList.isSuffixOf subtype)
  | _ => false

/-- Read the body of a request, where JSON may be nested up to a depth. A body without a content
type is taken for JSON. -/
def readBody (depth : Nat) (request : Request) : Except BodyError Body :=
  if request.body.isEmpty then .ok .absent
  else if !((request.header? "content-type").filter (· != "")).all isJsonType then
    .ok .other
  else
    match Text.Encoding.decodeDocument (Text.Utf8.encode request.body) with
    | .error _ => .error .unreadable
    | .ok points =>
      match Json.parse depth (.ofPoints points) with
      | .ok value => .ok (.json value)
      | .error (.malformed _ place) => .error (.malformed place.offset)
      | .error _ => .error .unreadable

/-- What an issue with a body can show of it. A body that is no JSON is shown as the text that it is. -/
def Body.given : Body → Json
  | .json value => .obj [("body", value)]
  | .absent | .other => .null

/-- Check the members of a body. Every issue is located in the body, also that there is none. -/
def checkBody {α : Type} (check : Json.Members → Checked α) (body : Body) : Checked α :=
  let checked : Checked α := match body with
    | .absent => .fail .missing
    | .json value => record .modelAttributesType check value
    | .other => .fail .modelAttributesType
  checked.within (.field "body")

/-- A request for a scan. Its texts may hold surrogates, as nothing is asked of their code points. -/
structure ScanRequest where
  code : LooseText
  fileName : LooseText
  selection : Severity.Selection
  saveHistory : Bool
  deriving DecidableEq

/-- Read a request for a scan. All severities are reported and the scan is saved unless the request
says otherwise. -/
def ScanRequest.ofMembers (members : Json.Members) : Checked ScanRequest :=
  (((Checked.map ScanRequest.mk (required members "code" text)).ap
    (required members "filename" text)).ap
    (withDefault members "severities" none (nullable (listOf Severity.check)))).ap
    (withDefault members "save_history" true flag)

/-- A request for an enhancement. The findings need not be those of a scan; they are listed in the
prompt as they are given. -/
structure EnhanceRequest where
  code : LooseText
  fileName : LooseText
  findings : List Finding

/-- Read a request for an enhancement. It may come without findings. -/
def EnhanceRequest.ofMembers (members : Json.Members) : Checked EnhanceRequest :=
  ((Checked.map EnhanceRequest.mk (required members "code" text)).ap
    (required members "filename" text)).ap
    (withDefault members "findings" [] (listOf (Finding.check .modelAttributesType)))

end SourceAudit.Service
