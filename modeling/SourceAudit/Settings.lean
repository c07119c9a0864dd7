import SourceAudit.Enhancement.Client
import SourceAudit.History.Store
import SourceAudit.Text.Lowercase

/-!
# Settings

The settings of the service, read from environment variables. A variable that is empty counts as
unset, except that the name of the backend must not be empty.
-/

namespace SourceAudit

open Decimal (Binary64)
open Validation

/-- Environment variables and their values. Of several entries with one name the first counts. -/
structure Environment where
  entries : List (String × String)

namespace Environment

/-- The value of a variable. -/
def get? (environment : Environment) (name : String) : Option String :=
  (environment.entries.find? (·.1 == name)).map (·.2)

/-- The value of a variable that is set and not empty. A blank value is not empty. -/
def nonempty? (environment : Environment) (name : String) : Option String :=
  (environment.get? name).filter (· != "")

end Environment

/-- The variables that settings are read from, one for each part of the settings. Others are
ignored. -/
inductive Variable
  | provider
  | model
  | openRouterKey
  | openRouterUrl
  | geminiKey
  | timeout
  | referer
  | historyPath
  | corsOrigins
  deriving DecidableEq

/-- The name of a variable. -/
def Variable.name : Variable → String
  | .provider => "CODESAFE_LLM_PROVIDER"
  | .model => "CODESAFE_MODEL"
  | .openRouterKey => "OPENROUTER_API_KEY"
  | .openRouterUrl => "OPENROUTER_BASE_URL"
  | .geminiKey => "GEMINI_API_KEY"
  | .timeout => "CODESAFE_LLM_TIMEOUT"
  | .referer => "CODESAFE_REFERER"
  | .historyPath => "CODESAFE_HISTORY_PATH"
  | .corsOrigins => "CODESAFE_CORS_ORIGINS"

/-- The origins that may call the service from a browser unless others are set. -/
def defaultOrigins : List String :=
  ["http://localhost:5173", "http://localhost:3000", "http://localhost:8000"]

/-- The settings of the service. The keys of both backends are kept, whichever is selected. -/
structure Settings where
  backend : Backend
  model : Option String
  openRouterKey : Option String
  openRouterUrl : String
  geminiKey : Option String
  timeout : Binary64
  referer : Option String
  historyPath : Option String
  corsOrigins : List String
  deriving DecidableEq

/-- Why there are no settings, or no configuration from them: variables that cannot be read, the key
that is needed, or a value that the configuration refuses. -/
inductive ConfigError
  | invalid (failure : Failure)
  | missingKey (key : Variable)
  | rejected (failure : Failure)
  deriving DecidableEq

/-- The wording of a configuration error. A missing key is told by the name of its variable. -/
def ConfigError.message : ConfigError → String
  | .invalid failure => "Invalid configuration: " ++ failure.message
  | .missingKey key => key.name ++ " is not configured on the server"
  | .rejected failure => failure.message

namespace Settings

/-- The origins of a list separated by commas, without blanks around them; blank ones are left
out. -/
def originsOf (text : String) : List String :=
  (((Text.splitOn ',' text.toList).map Text.trim).filter (!·.isEmpty)).map String.ofList

/-- A backend is named in any case, with blanks around its name. The empty name is none, so the
variable must not be set to it. -/
def backendOf (text : String) : Checked Backend :=
  Backend.check (.str (String.ofList (Text.lower (Text.trim text.toList))))

/-- A timeout is a numeral greater than zero, in any form that a text field takes, infinity among
them. -/
def timeoutOf : Option String → Checked Binary64
  | some value => positive (.str value)
  | none => .valid defaultTimeout

/-- The settings that an environment writes, or everything that is wrong with them. Only the backend
and the timeout can be wrong. -/
def check (environment : Environment) : Checked Settings :=
  let set? (key : Variable) := environment.nonempty? key.name
  let backend := (backendOf ((environment.get? Variable.provider.name).getD "openrouter")).within
    (.field "llm_provider")
  let timeout := (timeoutOf (set? .timeout)).within (.field "llm_timeout")
  (backend.map fun backend timeout =>
    { backend
      model := set? .model
      openRouterKey := set? .openRouterKey
      openRouterUrl := (set? .openRouterUrl).getD defaultBaseUrl
      geminiKey := set? .geminiKey
      timeout
      referer := set? .referer
      historyPath := set? .historyPath
      corsOrigins := ((set? .corsOrigins).map originsOf).getD defaultOrigins }).ap timeout

/-- The settings that an environment writes. -/
def ofEnvironment (environment : Environment) : Except ConfigError Settings :=
  match check environment with
  | .valid settings => .ok settings
  | .invalid issues => .error (.invalid ⟨"Settings", issues⟩)

/-- The key of the selected backend. The key of the other one is never used. -/
def apiKey (settings : Settings) : Option String :=
  match settings.backend with
  | .gemini => settings.geminiKey
  | .openRouter => settings.openRouterKey
  | .mock => none

/-- The variable that holds the key of the selected backend, if it needs one. It is named where the
key is missing. -/
def keyVariable? (settings : Settings) : Option Variable :=
  match settings.backend with
  | .gemini => some .geminiKey
  | .openRouter => some .openRouterKey
  | .mock => none

/-- The configuration of the enhancer, as far as the settings say it. It has not been checked yet. -/
def draftConfig (settings : Settings) : EnhancerConfig :=
  ⟨settings.backend, settings.apiKey.map .unicode, settings.model.map .unicode, settings.openRouterUrl,
    settings.timeout, settings.referer.map .unicode⟩

/-- The configuration of the enhancer, or why there is none. The key is looked at first, so that its
absence is told by the name of the variable. -/
def enhancerConfig (settings : Settings) : Except ConfigError EnhancerConfig :=
  let hasKey := settings.apiKey.any (· != "")
  match settings.keyVariable?, hasKey with
  | some key, false => .error (.missingKey key)
  | _, _ => settings.draftConfig.validate.mapError .rejected

/-- The document of the history, if one is set. -/
def historyFile? (settings : Settings) : Option HistoryFile :=
  (settings.historyPath.filter (· != "")).map fun path => ⟨.ofText path⟩

/-- The history that the settings ask for, as it is before its first use: a document where one is
set, and an empty memory otherwise. -/
def historyStore (settings : Settings) : HistoryStore :=
  match settings.historyFile? with
  | some file => .inFile file
  | none => .inMemory []

/-- The settings as a JSON object. The timeout is written as text. -/
def toJson (settings : Settings) : Json :=
  let optional (text : Option String) : Json := .ofText? (text.map .unicode)
  .obj [("llm_provider", .str settings.backend.name), ("model", optional settings.model),
    ("openrouter_api_key", optional settings.openRouterKey),
    ("openrouter_base_url", .str settings.openRouterUrl),
    ("gemini_api_key", optional settings.geminiKey), ("llm_timeout", .float settings.timeout),
    ("referer", optional settings.referer), ("history_path", optional settings.historyPath),
    ("cors_origins", .arr (settings.corsOrigins.map fun (origin : String) => .str origin))]

end Settings

end SourceAudit
