import SourceAudit.Enhancement.Config
import SourceAudit.Network.Gemini
import SourceAudit.Network.OpenRouter

/-!
# Clients

The client that a configuration asks for. Clients reach the models through a network, which says what
comes of each request, and through the library that sends their requests.
-/

namespace SourceAudit

/-- What comes of requests, and the library that sends them. The two ways to reach a model are
independent: one goes by requests for addresses, the other through a library of its own. -/
structure Network where
  library : HttpLibrary
  send : HttpRequest → Exchange
  generate : Gemini.Request → Gemini.Generation

/-- Something that can be asked for an improved file. Only two of the clients reach over the
network; the key of the second one is handed to its library and never looked at. -/
inductive Client
  | openRouter (client : OpenRouter.Client)
  | gemini (apiKey model : LooseText)
  | echo

namespace Client

/-- The client that a configuration asks for. A configuration that has been checked has the key that
its client needs; the echo needs nothing. -/
def of (config : EnhancerConfig) : Client :=
  match config.backend with
  | .openRouter =>
    .openRouter ⟨config.apiKey.getD "", config.modelName, OpenRouter.dropSlashes config.baseUrl,
      config.timeout, config.referer⟩
  | .gemini => .gemini (config.apiKey.getD "") config.modelName
  | .mock => .echo

/-- Answer a prompt. -/
def complete (network : Network) : Client → Completer
  | .openRouter client => client.complete network.library network.send
  | .gemini _ model => Gemini.complete model network.generate
  | .echo => SourceAudit.echo

end Client

end SourceAudit
