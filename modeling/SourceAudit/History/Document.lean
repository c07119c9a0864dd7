import SourceAudit.History.Entry
import SourceAudit.Json.Layout
import SourceAudit.Json.Parser
import SourceAudit.Json.Strict
import SourceAudit.Text.Utf8

/-!
# History documents

The entries of a history as the bytes of one JSON document, oldest first. A document that is read may
use any layout and any accepted form of its fields; it must be well-formed UTF-8 and hold no lone
surrogate, in its strings as in its member names. A document is written from any entries, so that one
with a surrogate is written and then not read.
-/

namespace SourceAudit

open Validation

namespace HistoryDocument

/-- The depth of nesting that a document may have. Entries need four levels; the rest is for members
that are ignored. -/
def maxDepth : Nat := 200

/-- Entries as a document, with two spaces a level. Only ASCII is written, as everything else is
escaped. -/
def write (entries : List HistoryEntry) : List UInt8 :=
  Text.Utf8.encode (Json.write .indented 0 (.arr (entries.map HistoryEntry.toJson)))

/-- The JSON value of a document, if there is one: well-formed UTF-8 that holds JSON without lone
surrogates. -/
def value? (bytes : List UInt8) : Option Json := do
  let text ← Text.Utf8.decode? bytes
  match Json.readDocument maxDepth text with
  | .ok value => if value.isUnicode then some value else none
  | .error _ => none

/-- The entries of a document, or everything that is wrong with it. A document that is no JSON at
all has one issue, which is with the document itself. -/
def read (bytes : List UInt8) : Except Failure (List HistoryEntry) :=
  let checked := match value? bytes with
    | some value => listOf HistoryEntry.check value
    | none => .fail .jsonInvalid
  checked.toExcept "list[HistoryEntry]"

end HistoryDocument

end SourceAudit
