import SourceAudit.Json.Layout
import SourceAudit.Json.Parser
import SourceAudit.Manifest.Files
import SourceAudit.Report
import SourceAudit.Validation.Basic

/-!
# Manifests

A manifest is a JSON document that asks for scans: of the files it lists, or of the code it holds. The
answer is one JSON object. A manifest that cannot be used is answered with an object that says why,
and a file that cannot be read with a record in its place. A value of the wrong kind where a name or
a path is expected stops the work (`Crash`), and so nothing is answered for the other files either.
-/

namespace SourceAudit.Manifest

/-- Why the work on a manifest stops without an answer. Each of these is an error that nothing on
the way turns into a record or an answer, so that what has been found before is lost. -/
inductive Crash
  | numberTooLong (digits : Nat)
  | tooDeep (inArray : Bool)
  | entryNotObject (entry : Json)
  | nameNotIterable (name : Json)
  | nameNotSplittable (name : Json)
  | reportInvalid (failure : Validation.Failure)
  | badPath (error : PathError)

/-- The wording of a crash. It is what a caller sees in place of an answer, and goes to the stream
of errors. -/
def Crash.message : Crash → String
  | .numberTooLong digits => (Json.ReadError.numberTooLong digits).message
  | .tooDeep inArray => (Json.ReadError.tooDeep inArray).message
  | .entryNotObject entry => "'" ++ entry.kindName ++ "' object has no attribute 'get'"
  | .nameNotIterable name => "argument of type '" ++ name.kindName ++ "' is not iterable"
  | .nameNotSplittable name => "'" ++ name.kindName ++ "' object has no attribute 'rsplit'"
  | .reportInvalid failure => failure.message
  | .badPath error => error.message

/-- The file name that a report shows: any text. Other values stop the work in different ways, by what is
asked of a name first: whether it has a dot, then to be split at it, then to be text. -/
def reportName : Json → Except Crash LooseText
  | .str name => .ok name
  | .arr items =>
    let hasDot := items.any fun item => match item with
      | .str text => text == ("." : LooseText)
      | _ => false
    notText (.arr items) hasDot
  | .obj members => notText (.obj members) (members.any (·.1 == ("." : LooseText)))
  | name => .error (.nameNotIterable name)
where
  /-- A list or an object as a name. -/
  notText (name : Json) (hasDot : Bool) : Except Crash LooseText :=
    if hasDot then .error (.nameNotSplittable name)
    else .error (.reportInvalid ⟨"ScanResponse", [⟨[.field "filename"], .stringType⟩]⟩)

/-- Scan a text under the name that a value gives. The text is the same for every name, so only the
name can stop the work. -/
def scanText (content : String) (name : Json) (selection : Severity.Selection) :
    Except Crash Report :=
  (reportName name).map fun name => Report.of content name selection

/-- What the answer says about one file: a report, or why there is none. The name of a file without
a report may be any value, as it is shown only. -/
inductive FileResult
  | scanned (report : Report)
  | failed (name : Json) (message : LooseText)

/-- The result for one file as a JSON object. Whether there is a report can be told from the member
that says what went wrong. -/
def FileResult.toJson (result : FileResult) (scanId : String) : Json :=
  match result with
  | .scanned report => report.toJson scanId
  | .failed name message => .obj [("filename", name), ("error", .str message)]

/-- The first value that counts as present. A member that is missing, null, empty, zero or false
gives way to the next one. -/
def firstPresent (values : List (Option Json)) : Option Json :=
  (values.filterMap id).find? Json.isTruthy

/-- The last component of a path value. Where there is no slash, that is the whole text; a slash at
the end leaves nothing. -/
def baseNameOf : Json → Except Crash Json
  | .str path => .ok (.str (path.afterLast '/'))
  | path => .error (.badPath (.notText path))

/-- The name that a file entry gives, or the last component of its path. Two members can give a
name, of which the one for the original name is asked first; a path that is no text has no last
component. -/
def entryName (members : Json.Members) (path : Option Json) : Except Crash (Option Json) :=
  match firstPresent [members.get? "original_name", members.get? "filename"] with
  | some name => .ok (some name)
  | none => match path with
    | some path => (baseNameOf path).map fun name => if name.isTruthy then some name else none
    | none => .ok none

/-- The result for a file, by what came of reading it. A file that could not be read is recorded
under its path if it has no name, and a text without a name is scanned under the empty one. -/
def readResult (selection : Severity.Selection) (name : Option Json) (path : Json) :
    Except LooseText String → Except Crash FileResult
  | .error message => .ok (.failed (name.getD path) message)
  | .ok content => (scanText content (name.getD (.str "")) selection).map .scanned

/-- The result for the file that an entry's members name, and the streams after it. The name is
settled before the file is read; without a path there is nothing to read, and the entry gets a
record that says so. -/
def scanFile (files : Reader) (selection : Severity.Selection) (streams : OpenStreams)
    (members : Json.Members) : Except Crash (FileResult × OpenStreams) := do
  let path := firstPresent [members.get? "path"]
  let name ← entryName members path
  match path with
  | none =>
    .ok (.failed (name.getD (.str "unknown")) "File path missing in file manifest", streams)
  | some path => do
    let (outcome, streams) ← (readValue files streams path).mapError .badPath
    (readResult selection name path outcome).map (·, streams)

/-- The result for one entry of a manifest, and the streams after it. An entry that is no object
stops the work. -/
def scanEntry (files : Reader) (selection : Severity.Selection) (streams : OpenStreams) :
    Json → Except Crash (FileResult × OpenStreams)
  | .obj members => scanFile files selection streams members
  | entry => .error (.entryNotObject entry)

/-- Counts over all results: of findings by severity, and of files that failed. A file that was
scanned without findings counts nowhere. -/
structure Aggregate where
  findings : Summary
  errors : Nat
  deriving DecidableEq

namespace Aggregate

/-- The counts of no result. -/
def empty : Aggregate := ⟨⟨0, 0, 0, 0⟩, 0⟩

/-- Count one more result. -/
def count (aggregate : Aggregate) : FileResult → Aggregate
  | .scanned report => { aggregate with findings := aggregate.findings.add report.summary }
  | .failed .. => { aggregate with errors := aggregate.errors + 1 }

/-- The counts over some results. They are built up result by result, but no order matters to them. -/
def of (results : List FileResult) : Aggregate :=
  results.foldl count empty

/-- The counts as a JSON object. -/
def toJson (aggregate : Aggregate) : Json :=
  let errors : Json.Members := [("errors", .int aggregate.errors)]
  .obj (aggregate.findings.toMembers ++ errors)

end Aggregate

/-- The results for the entries of a manifest, in their order, and the streams after the last one.
Each entry finds the streams that the entries before it have left, and the first entry without a
result stops the work. -/
def scanEntries (files : Reader) (selection : Severity.Selection) (streams : OpenStreams) :
    List Json → Except Crash (List FileResult × OpenStreams)
  | [] => .ok ([], streams)
  | entry :: rest => do
    let (result, streams) ← scanEntry files selection streams entry
    let (results, streams) ← scanEntries files selection streams rest
    .ok (result :: results, streams)

/-- What a run of the program finds on the system: the files at paths, the streams that were opened
before, standard output among them, and how deep a document may be nested for its value to be read. -/
structure System where
  files : Reader
  streams : OpenStreams
  depth : Nat

/-- What a manifest is answered with: what is wrong with it, the results for the files that it
lists, or the report on the code that it holds. -/
inductive Answer
  | invalidJson (error : Json.ReadError)
  | notObject
  | severitiesNotList
  | unknownSeverity (error : Severity.SelectionError)
  | batch (results : List FileResult)
  | single (report : Report)
  | missingInput

/-- How a severity is spelled in a manifest: in any case. Values that are no strings are spelled as
they show. -/
def severityText (item : Json) : Json :=
  .str item.display.lower

/-- The severities that a manifest asks for; null asks for all, as does a manifest without the
member. Only a list can ask for some of them, and one unknown name makes it unusable. -/
def severities : Option Json → Except Answer Severity.Selection
  | none | some .null => .ok none
  | some (.arr items) =>
    match Severity.listOfJson (items.map severityText) with
    | .ok severities => .ok (some severities)
    | .error error => .error (.unknownSeverity error)
  | some _ => .error .severitiesNotList

/-- The code that a manifest holds, as it is scanned. Surrogates are shown as the replacement
character, which no rule looks for either; values of other kinds hold no code. -/
def codeOf : Option Json → Option String
  | some (.str code) => some code.shown
  | _ => none

/-- Answer the members of a manifest. Unusable severities come first, then a list of files that is
not empty, then code; the streams are those that are left for the answer. -/
def answerMembers (system : System) (members : Json.Members) :
    Except Crash (Answer × OpenStreams) :=
  match severities (members.get? "severities") with
  | .error answer => .ok (answer, system.streams)
  | .ok selection =>
    match members.get? "files", codeOf (members.get? "code") with
    | some (.arr (entry :: rest)), _ =>
      (scanEntries system.files selection system.streams (entry :: rest)).map fun (results, streams) =>
        (.batch results, streams)
    | _, some code =>
      let name := (firstPresent [members.get? "filename"]).getD (.str "")
      (scanText code name selection).map fun report => (.single report, system.streams)
    | _, none => .ok (.missingInput, system.streams)

/-- Answer a manifest as it is typed. Malformed text and values that are no objects are answered;
limits of the reader stop the work. -/
def answer (system : System) (source : Json.Source) : Except Crash (Answer × OpenStreams) :=
  match Json.parseTyped system.depth source with
  | .error (.numberTooLong digits) => .error (.numberTooLong digits)
  | .error (.tooDeep inArray) => .error (.tooDeep inArray)
  | .error error => .ok (.invalidJson error, system.streams)
  | .ok (.obj members) => answerMembers system members
  | .ok _ => .ok (.notObject, system.streams)

/-- The paths of the files that a manifest lists, as the system sees them. A program must read these
files before it can answer; to read one that no answer needs does no harm. -/
def listedPaths (depth : Nat) (source : Json.Source) : List (List UInt8) :=
  match Json.parseTyped depth source with
  | .ok manifest => match manifest.get? "files" with
    | some (.arr entries) => entries.filterMap fun entry => match entry.get? "path" with
      | some (.str path) => (Text.pathBytes path).toOption
      | _ => none
    | _ => []
  | .error _ => []

/-- Results with the identifiers of their scans, which are told apart by the place of the result. -/
def numberedJson (scanId : Nat → String) (results : List FileResult) : List Json :=
  results.zipIdx.map fun (result, index) => result.toJson (scanId index)

namespace Answer

/-- Whether an answer reports success. A batch does, even if none of its files could be read. -/
def isSuccess : Answer → Bool
  | .batch _ | .single _ => true
  | _ => false

/-- The number of identifiers that an answer needs: one for each result. -/
def scanCount : Answer → Nat
  | .batch results => results.length
  | .single _ => 1
  | _ => 0

/-- The exit status of a program that gives an answer: zero for reports and batches, one for what is
wrong with a manifest. -/
def exitStatus (answer : Answer) : Nat :=
  if answer.isSuccess then 0 else 1

/-- The answer to severities that cannot be used. -/
def invalidSeverities (reason : String) : Json :=
  .obj [("error", .str ("Invalid severities: " ++ reason)),
    ("valid_severities", .arr (Severity.all.map fun severity => .str severity.name))]

/-- How a manifest can look: one that lists files and one that holds code. It is shown where a
manifest asks for nothing. -/
def examples : Json :=
  .obj [
    ("files", .obj [("files", .arr [.obj [("path", .str "/tmp/app.js"),
      ("original_name", .str "app.js")]])]),
    ("code", .obj [("code", .str "eval(x)"), ("filename", .str "app.js")])]

/-- An answer as a JSON object, with the identifiers of its scans. Every answer is an object, and it
has an error just where it does not report success. -/
def toJson (scanId : Nat → String) : Answer → Json
  | .invalidJson error => .obj [("error", .str ("Invalid JSON input: " ++ error.message))]
  | .notObject => .obj [("error", .str "Input must be a JSON object")]
  | .severitiesNotList => invalidSeverities "'severities' must be a list"
  | .unknownSeverity error => invalidSeverities error.message
  | .batch results =>
    .obj [("files_scanned", .int results.length), ("results", .arr (numberedJson scanId results)),
      ("aggregate", (Aggregate.of results).toJson)]
  | .single report => report.toJson (scanId 0)
  | .missingInput =>
    .obj [
      ("error", .str
        "Missing required input. Provide either 'files' or 'code' with 'filename'."),
      ("examples", examples)]

end Answer

/-- What a run leaves behind: the line that it prints, and the exit status that it asks for. The
line has no line feed at its end. -/
structure Output where
  line : String
  status : Nat
  deriving DecidableEq

/-- What an answer leaves behind. It is printed in one line, unless its own manifest has closed standard
output before: then nothing is printed, and the run ends with the failure to print. -/
def Answer.output (answer : Answer) (streams : OpenStreams) (scanId : Nat → String) : Option Output :=
  if streams.isOpen standardOutput then
    some ⟨Json.render .spaced (answer.toJson scanId), answer.exitStatus⟩
  else none

/-- A run of the program on a manifest. It ends with a crash, with output, or without output because
its own manifest has closed the stream for it. -/
def run (system : System) (scanId : Nat → String) (source : Json.Source) :
    Except Crash (Option Output) :=
  (answer system source).map fun (answer, streams) => answer.output streams scanId

end SourceAudit.Manifest
