import SourceAudit.Manifest
import SourceAudit.Proofs.Json.RoundTrip
import SourceAudit.Proofs.Report
import SourceAudit.Proofs.Scan.Breaks
import SourceAudit.Proofs.Text.Utf8

/-!
# A file and the same text as code

A manifest may list a file or hold code. The text of a file is read with its line breaks unified, code
is taken as it is. Both manifests are answered, and the report on a file says the same as the report
on its text exactly when every selected rule of the profile overlooks each lone carriage return of the
text (`Manifest.file_report_eq_iff`).
-/

namespace SourceAudit.Manifest

/-- A manifest that lists one file under a name, with any value where severities are asked for. -/
def fileManifest (path name : LooseText) (severities : Json) : Json :=
  .obj [
    ("files", .arr [.obj [("path", .str path), ("original_name", .str name)]]),
    ("severities", severities)]

/-- A manifest that holds code under a name, with any value where severities are asked for. -/
def codeManifest (code : String) (name : LooseText) (severities : Json) : Json :=
  .obj [("code", .str code), ("filename", .str name), ("severities", severities)]

/-- A path at which a reader finds a file with some bytes. The empty path is none, as it counts as
missing. -/
structure Holds (files : Reader) (path : LooseText) (bytes : List UInt8) : Prop where
  nonempty : path ≠ ""
  /-- The path can be encoded, and what it is encoded as has no null byte. -/
  place : ∃ place, Text.pathBytes path = .ok place ∧ 0 ∉ place ∧ files place = .ok bytes

variable {system : System} {path name : LooseText} {content : String} {severitiesValue : Json}
  {selection : Severity.Selection} {source : Json.Source}

theorem fileText_encode (text : List Char) :
    fileText (Text.Utf8.encode text) = String.ofList (Text.unifyBreaks text) := by
  rw [fileText, Text.Utf8.decodeLossy_encode]

theorem firstPresent_str (nonempty : name ≠ "") (others : List (Option Json)) :
    firstPresent (some (.str name) :: others) = some (.str name) := by
  have truthy : (Json.str name).isTruthy = true := bne_iff_ne.mpr nonempty
  simp only [firstPresent, List.filterMap_cons, id, List.find?_cons_of_pos truthy]

/-- A file is read as its text with unified line breaks, and no stream is touched. -/
theorem readValue_of_holds (holds : Holds system.files path (Text.Utf8.encode content.toList)) :
    readValue system.files system.streams (.str path) =
      .ok (.ok (String.ofList (Text.unifyBreaks content.toList)), system.streams) := by
  obtain ⟨place, encoded, noNull, found⟩ := holds.place
  have apart : ¬ place.contains 0 = true := by
    rw [List.contains_iff_mem]
    exact noNull
  have read : readText system.files path =
      .ok (.ok (String.ofList (Text.unifyBreaks content.toList))) := by
    simp only [readText, encoded, if_neg apart, found, fileText_encode]
  change (readText system.files path).map _ = _
  rw [read]
  rfl

theorem scanEntry_of_holds (holds : Holds system.files path (Text.Utf8.encode content.toList))
    (named : name ≠ "") (selection : Severity.Selection) :
    scanEntry system.files selection system.streams
        (.obj [("path", .str path), ("original_name", .str name)]) =
      .ok (.scanned (Report.of (String.ofList (Text.unifyBreaks content.toList)) name selection),
        system.streams) := by
  have located : firstPresent [Json.Members.get?
      [("path", .str path), ("original_name", .str name)] "path"] = some (.str path) :=
    firstPresent_str holds.nonempty []
  have titled (path? : Option Json) :
      entryName [("path", .str path), ("original_name", .str name)] path? = .ok (some (.str name)) := by
    have first : firstPresent
        [Json.Members.get? [("path", .str path), ("original_name", .str name)] "original_name",
          Json.Members.get? [("path", .str path), ("original_name", .str name)] "filename"] =
        some (.str name) := firstPresent_str named _
    unfold entryName
    rw [first]
  rw [scanEntry, scanFile, located]
  simp only [titled, bind, Except.bind, readValue_of_holds holds]
  rfl

/-- A manifest that lists a file is answered with the report on its text with unified breaks. -/
theorem answer_fileManifest (holds : Holds system.files path (Text.Utf8.encode content.toList))
    (named : name ≠ "") (accepted : severities (some severitiesValue) = .ok selection)
    (parsed : Json.parseTyped system.depth source = .ok (fileManifest path name severitiesValue)) :
    answer system source =
      .ok (.batch
        [.scanned (Report.of (String.ofList (Text.unifyBreaks content.toList)) name selection)],
        system.streams) := by
  have requested : Json.Members.get?
      [("files", .arr [.obj [("path", .str path), ("original_name", .str name)]]),
        ("severities", severitiesValue)] "severities" = some severitiesValue := rfl
  have listed : Json.Members.get?
      [("files", .arr [.obj [("path", .str path), ("original_name", .str name)]]),
        ("severities", severitiesValue)] "files" =
        some (.arr [.obj [("path", .str path), ("original_name", .str name)]]) := rfl
  rw [answer, parsed, fileManifest]
  simp only [answerMembers, requested, accepted, listed, scanEntries, scanEntry_of_holds holds named]
  rfl

/-- A manifest that holds code is answered with the report on it. -/
theorem answer_codeManifest (named : name ≠ "")
    (accepted : severities (some severitiesValue) = .ok selection)
    (parsed : Json.parseTyped system.depth source = .ok (codeManifest content name severitiesValue)) :
    answer system source = .ok (.single (Report.of content name selection), system.streams) := by
  have requested : Json.Members.get? [("code", .str content), ("filename", .str name),
      ("severities", severitiesValue)] "severities" = some severitiesValue := rfl
  have unlisted : Json.Members.get? [("code", .str content), ("filename", .str name),
      ("severities", severitiesValue)] "files" = none := rfl
  have held : codeOf (Json.Members.get? [("code", .str content), ("filename", .str name),
      ("severities", severitiesValue)] "code") = some content := rfl
  have titled : firstPresent [Json.Members.get? [("code", .str content), ("filename", .str name),
      ("severities", severitiesValue)] "filename"] = some (.str name) := firstPresent_str named []
  rw [answer, parsed, codeManifest]
  simp only [answerMembers, requested, accepted, unlisted, held, titled]
  rfl

/-- A report on a text stays the same with unified breaks exactly when the selected rules overlook
each lone carriage return. -/
theorem report_unifyBreaks_eq_iff (content : String) (name : LooseText)
    (selection : Severity.Selection) :
    Report.of (String.ofList (Text.unifyBreaks content.toList)) name selection =
        Report.of content name selection ↔
      ∀ rule ∈ Catalog.profileFor (normalizeExtension (extensionOf name).shown),
        selection.keeps rule.severity = true →
          Text.AtLoneReturns rule.detector.Overlooks content.toList := by
  rw [Report.of_eq_iff]
  refine forall_congr' fun rule => forall_congr' fun listed => forall_congr' fun _ => ?_
  obtain ⟨feed, carriage⟩ := Catalog.freeOf_of_mem_profileFor listed
  rw [String.toList_ofList]
  exact Detector.detect_unifyBreaks_eq_iff feed carriage content.toList

/-- **The report on a file is the report on the same text as code exactly when each selected rule
overlooks every lone carriage return of the text.** Both manifests are answered with a report, and the
two reports always agree in the name and the extension. -/
theorem file_report_eq_iff {fileRequest codeRequest : Json.Source}
    (holds : Holds system.files path (Text.Utf8.encode content.toList)) (named : name ≠ "")
    (accepted : severities (some severitiesValue) = .ok selection)
    (asksForFile :
      Json.parseTyped system.depth fileRequest = .ok (fileManifest path name severitiesValue))
    (asksForCode :
      Json.parseTyped system.depth codeRequest = .ok (codeManifest content name severitiesValue)) :
    ∃ fileReport codeReport : Report,
      answer system fileRequest = .ok (.batch [.scanned fileReport], system.streams) ∧
      answer system codeRequest = .ok (.single codeReport, system.streams) ∧
      fileReport.fileName = codeReport.fileName ∧ fileReport.extension = codeReport.extension ∧
      ((∀ scanId, (FileResult.scanned fileReport).toJson scanId =
          (Answer.single codeReport).toJson fun _ => scanId) ↔
        ∀ rule ∈ Catalog.profileFor (normalizeExtension (extensionOf name).shown),
          selection.keeps rule.severity = true →
            Text.AtLoneReturns rule.detector.Overlooks content.toList) := by
  refine ⟨_, _, answer_fileManifest holds named accepted asksForFile,
    answer_codeManifest named accepted asksForCode, rfl, rfl, ?_⟩
  rw [← report_unifyBreaks_eq_iff]
  simp only [FileResult.toJson, Answer.toJson, Report.toJson_inj, forall_const]

/-- A token after a lone carriage return: the report on the file has it on another line. -/
theorem file_report_ne_after_return :
    let content := "a\reval(x)"
    let files : Reader := fun place =>
      if place = Text.Utf8.encode "/a.js".toList then .ok (Text.Utf8.encode content.toList)
      else .error .notFound
    let system : System := ⟨files, [⟨[standardOutput], .bytes []⟩], 993⟩
    let fileRequest :=
      "\x7b\"files\": [\x7b\"path\": \"/a.js\", \"original_name\": \"a.js\"\x7d], \"severities\": null\x7d".toList
    let codeRequest :=
      "\x7b\"code\": \"a\\reval(x)\", \"filename\": \"a.js\", \"severities\": null\x7d".toList
    Holds system.files "/a.js" (Text.Utf8.encode content.toList) ∧ ("a.js" : LooseText) ≠ "" ∧
      severities (some .null) = .ok none ∧
      Json.parseTyped system.depth fileRequest = .ok (fileManifest "/a.js" "a.js" .null) ∧
      Json.parseTyped system.depth codeRequest = .ok (codeManifest content "a.js" .null) ∧
      ∃ fileReport codeReport : Report,
        answer system fileRequest = .ok (.batch [.scanned fileReport], system.streams) ∧
        answer system codeRequest = .ok (.single codeReport, system.streams) ∧
        ¬ ∀ scanId, (FileResult.scanned fileReport).toJson scanId =
          (Answer.single codeReport).toJson fun _ => scanId := by
  intro content files system fileRequest codeRequest
  have holds : Holds system.files "/a.js" (Text.Utf8.encode content.toList) :=
    ⟨by decide, Text.Utf8.encode "/a.js".toList, by decide +kernel, by decide,
      show files _ = _ from if_pos rfl⟩
  have named : ("a.js" : LooseText) ≠ "" := by decide
  have accepted : severities (some .null) = .ok none := rfl
  have asksForFile :
      Json.parseTyped system.depth fileRequest = .ok (fileManifest "/a.js" "a.js" .null) := by
    have written : fileRequest = Json.write .spaced 0 (fileManifest "/a.js" "a.js" .null) := by
      decide +kernel
    rw [written]
    exact Json.parseTyped_write Json.Layout.isBlank_spaced (by decide +kernel)
  have asksForCode :
      Json.parseTyped system.depth codeRequest = .ok (codeManifest content "a.js" .null) := by
    have written : codeRequest = Json.write .spaced 0 (codeManifest content "a.js" .null) := by
      decide +kernel
    rw [written]
    exact Json.parseTyped_write Json.Layout.isBlank_spaced (by decide +kernel)
  refine ⟨holds, named, accepted, asksForFile, asksForCode, ?_⟩
  obtain ⟨fileReport, codeReport, onFile, onCode, -, -, agrees⟩ :=
    file_report_eq_iff holds named accepted asksForFile asksForCode
  refine ⟨fileReport, codeReport, onFile, onCode, fun same => ?_⟩
  have profile :
      Catalog.profileFor (normalizeExtension (extensionOf "a.js").shown) = Catalog.javascript := by
    have spelled : normalizeExtension (extensionOf "a.js").shown = "js" := by decide +kernel
    rw [spelled]
    rfl
  rw [profile] at agrees
  have split : content.toList = ['a'] ++ '\r' :: "eval(x)".toList := by decide
  have overlooked := agrees.mp same _ List.mem_cons_self rfl _ _ split (by decide)
  exact absurd overlooked (by decide +kernel)

end SourceAudit.Manifest
