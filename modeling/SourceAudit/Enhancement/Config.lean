import SourceAudit.Validation.Field

/-!
# Enhancer configuration

Which model is asked, and how. The backends that reach over the network need a key.
-/

namespace SourceAudit

open Decimal (Binary64)
open Validation

/-- What answers prompts: one of two services, or an echo that needs no network. -/
inductive Backend
  | openRouter
  | gemini
  | mock
  deriving DecidableEq

namespace Backend

/-- The name of a backend, by which settings and configurations ask for it. -/
def name : Backend → String
  | .openRouter => "openrouter"
  | .gemini => "gemini"
  | .mock => "mock"

/-- The backend with a given name, spelled exactly. -/
def ofName? : String → Option Backend
  | "openrouter" => some .openRouter
  | "gemini" => some .gemini
  | "mock" => some .mock
  | _ => none

/-- The model that a backend uses unless another one is named. The echo has a name too, though
nothing asks for it. -/
def defaultModel : Backend → String
  | .openRouter => "nvidia/llama-3.1-nemotron-nano-8b-v1:free"
  | .gemini => "gemini-2.5-flash"
  | .mock => "mock"

/-- The backend that a value names. The spelling must be exact here; settings are more lenient and
bring a name into this form before. -/
def check : Json → Checked Backend
  | .str (.unicode name) => match ofName? name with
    | some backend => .valid backend
    | none => .fail .literalError
  | .str _ => .fail .stringUnicode
  | _ => .fail .literalError

end Backend

/-- The address of the network backend unless another one is set. -/
def defaultBaseUrl : String := "https://openrouter.ai/api/v1"

/-- The number of seconds after which a request is given up unless another one is set. It is a
floating-point number, as a timeout may have a fraction. -/
def defaultTimeout : Binary64 := .ofInt 60

/-- Which model is asked, and how. The address and the referer matter to one backend only, but
belong to every configuration. -/
structure EnhancerConfig where
  backend : Backend
  apiKey : Option LooseText
  model : Option LooseText
  baseUrl : LooseText
  timeout : Binary64
  referer : Option LooseText
  deriving DecidableEq

namespace EnhancerConfig

/-- Whether the configuration has the key that its backend needs. An empty key is none, but a blank
one is a key; the echo needs none. -/
def hasNeededKey (config : EnhancerConfig) : Bool :=
  config.backend == .mock || config.apiKey.any (· != ("" : LooseText))

/-- A configuration must have the key that its backend needs. -/
def requireKey (config : EnhancerConfig) : Checked EnhancerConfig :=
  if config.hasNeededKey then .valid config else .fail .valueError

/-- The name of the configuration in validation messages. -/
def typeName : String := "EnhancerConfig"

/-- The configuration with given fields, each of which has a default. The key is looked at only when
every field is valid, so its absence is never told beside other issues. -/
def ofMembers (members : Json.Members) : Checked EnhancerConfig :=
  ((((((Checked.map EnhancerConfig.mk (withDefault members "provider" .openRouter Backend.check)).ap
    (withDefault members "api_key" none (nullable text))).ap
    (withDefault members "model" none (nullable text))).ap
    (withDefault members "base_url" defaultBaseUrl text)).ap
    (withDefault members "timeout" defaultTimeout positive)).ap
    (withDefault members "referer" none (nullable text))).andThen requireKey

/-- The configuration with given fields, or everything that is wrong with them. -/
def ofFields (fields : Json) : Except Failure EnhancerConfig :=
  (record .modelType ofMembers fields).toExcept typeName

/-- Check a configuration put together elsewhere: its timeout and its key. The kinds of its other
fields leave nothing to check. -/
def validate (config : EnhancerConfig) : Except Failure EnhancerConfig :=
  let timed : Checked EnhancerConfig :=
    if config.timeout.isPositive then .valid config
    else (Checked.fail .greaterThan).within (.field "timeout")
  (timed.andThen requireKey).toExcept typeName

/-- The model that is asked: the one that is named, unless its name is empty. Then it is the default
of the backend. -/
def modelName (config : EnhancerConfig) : LooseText :=
  match config.model with
  | some name => if name = "" then config.backend.defaultModel else name
  | none => config.backend.defaultModel

/-- The configuration as a JSON object, with the model that is asked as one more member. Nothing
reads that member back. -/
def toJson (config : EnhancerConfig) : Json :=
  .obj [("provider", .str config.backend.name), ("api_key", .ofText? config.apiKey),
    ("model", .ofText? config.model), ("base_url", .str config.baseUrl),
    ("timeout", .float config.timeout), ("referer", .ofText? config.referer),
    ("model_name", .str config.modelName)]

end EnhancerConfig

end SourceAudit
