import SourceAudit.Finding.Validation
import SourceAudit.Timestamp.Reading

/-!
# History entries

An entry records the findings of one scan under an identifier and a time. Its texts may be loose, as the
name of a file that is scanned may; a document that is read back holds Unicode text only.
-/

namespace SourceAudit

open Validation

/-- What one scan found, and when. The findings are those of the report, so a selection limits what
is kept as well. -/
structure HistoryEntry where
  id : LooseText
  fileName : LooseText
  findings : List Finding
  createdAt : Timestamp
  deriving DecidableEq

/-- The identifier and the time of a new entry. Both come from outside, and nothing is asked of
either: identifiers may repeat and times go back. -/
structure Stamp where
  id : String
  time : Timestamp

namespace HistoryEntry

/-- A new entry. -/
def new (stamp : Stamp) (fileName : LooseText) (findings : List Finding) : HistoryEntry :=
  ⟨stamp.id, fileName, findings, stamp.time⟩

/-- An entry as a JSON object. Documents and responses write it alike; the time is text. -/
def toJson (entry : HistoryEntry) : Json :=
  .obj [("id", .str entry.id), ("file_name", .str entry.fileName),
    ("findings", .arr (entry.findings.map Finding.toJson)),
    ("created_at", .str entry.createdAt.text)]

/-- Whether the line numbers of an entry are short enough to be written. An entry with another one
can be put together, but no document can hold it. -/
def isWritable (entry : HistoryEntry) : Bool :=
  entry.findings.all Finding.isWritable

/-- The entry with given fields. An entry without findings has an empty list of them; the other
fields must be there. -/
def ofMembers (members : Json.Members) : Checked HistoryEntry :=
  (((Checked.map HistoryEntry.mk (required members "id" Validation.text)).ap
    (required members "file_name" Validation.text)).ap
    (withDefault members "findings" [] (listOf (Finding.check .modelType)))).ap
    (required members "created_at" Timestamp.check)

/-- The entry that a value writes. Members that an entry does not have are ignored. -/
def check : Json → Checked HistoryEntry :=
  record .modelType ofMembers

end HistoryEntry

end SourceAudit
