import SourceAudit.Proofs.History.Save
import SourceAudit.Proofs.Json.Ascii
import SourceAudit.Proofs.Json.Page

/-!
# Documents lose nothing

A document has a line for each part of its entries (`HistoryDocument.write_eq_page`), in printable ASCII
(`HistoryDocument.ascii_of_mem_write`). It is read as its entries, unless one of them has a line number that
is too long for a numeral, or a text with a lone surrogate (`HistoryDocument.read_write_iff`). A document
with such a number is never written; one with such a text is, and is then not read as what was saved
(`HistoryFile.read_of_save`). A document that is read may be in any form. Once it has been written anew, it
stays byte for byte as it is (`HistoryDocument.map_write_read_write`).
-/

namespace SourceAudit

/-- The line numbers of an entry can be written if none has more digits than a numeral may have. -/
theorem HistoryEntry.isWritable_iff {entry : HistoryEntry} :
    entry.isWritable = true ↔
      ∀ finding ∈ entry.findings, finding.line.number < 10 ^ Decimal.maxNumeralLength := by
  simp only [HistoryEntry.isWritable, Finding.isWritable, List.all_eq_true, Decimal.isWritable_iff]

namespace HistoryDocument

variable {bytes : List UInt8} {entries : List HistoryEntry}

/-- A written document is read as its entries exactly if their texts are Unicode text and all their line
numbers can be written. -/
theorem read_write_iff :
    read (write entries) = .ok entries ↔
      ∀ entry ∈ entries, entry.isUnicode = true ∧ ∀ finding ∈ entry.findings,
        finding.line.number < 10 ^ Decimal.maxNumeralLength := by
  have parts : (∀ entry ∈ entries, entry.isUnicode = true ∧ ∀ finding ∈ entry.findings,
        finding.line.number < 10 ^ Decimal.maxNumeralLength) ↔
      entries.all HistoryEntry.isUnicode = true ∧ entries.all HistoryEntry.isWritable = true := by
    simp only [List.all_eq_true, HistoryEntry.isWritable_iff, forall₂_and]
  rw [parts]
  exact ⟨fun accepted => ⟨isUnicode_of_read accepted, isWritable_of_read accepted⟩,
    fun ⟨whole, writable⟩ => read_write writable whole⟩

/-- A document is written line by line. -/
theorem write_eq_page (entries : List HistoryEntry) :
    write entries = Text.Utf8.encode
      (List.intercalate ['\n'] (Json.page 0 [] [] (.arr (entries.map HistoryEntry.toJson)))) := by
  rw [write, Json.write_indented]

/-- A document is written in line feeds and printable ASCII. -/
theorem ascii_of_mem_write {byte : UInt8} (member : byte ∈ write entries) :
    byte = 0x0a ∨ 0x20 ≤ byte ∧ byte < 0x7f := by
  have ascii := Json.inAscii_write Json.Layout.isAscii_indented 0
    (.arr (entries.map HistoryEntry.toJson))
  rw [write, Text.Utf8.encode_of_inAscii ascii] at member
  obtain ⟨c, written, rfl⟩ := List.mem_map.mp member
  rcases ascii c written with rfl | ⟨least, most⟩
  · exact .inl rfl
  · have value := Text.Utf8.toNat_toUInt8 (show c.toNat < 0x100 by omega)
    refine .inr ⟨?_, ?_⟩
    · rw [UInt8.le_iff_toNat_le, value]
      exact least
    · rw [UInt8.lt_iff_toNat_lt, value]
      exact most

/-- What has been read is written as a document that reading and writing leave as it is. -/
theorem map_write_read_write (accepted : read bytes = .ok entries) :
    (read (write entries)).map write = .ok (write entries) := by
  rw [read_write (isWritable_of_read accepted) (isUnicode_of_read accepted)]
  rfl

end HistoryDocument

/-- A save that returns its entry leaves the document of the entries from before and the new one. It is
read as them exactly if the new one is Unicode text. -/
theorem HistoryFile.read_of_save {file : HistoryFile} {tree : FileTree} {entry result : HistoryEntry}
    (saved : (file.save tree entry).outcome = .ok result) :
    ∃ old, file.entries tree = .ok old ∧
      ((file.save tree entry).finalTree tree).read file.path =
        .ok (HistoryDocument.write (old ++ [entry])) ∧
      (HistoryDocument.read (HistoryDocument.write (old ++ [entry])) = .ok (old ++ [entry]) ↔
        entry.isUnicode = true) := by
  obtain ⟨-, old, accepted, writable, -, last, rfl, written, -⟩ := HistoryFile.exists_of_save saved
  exact ⟨old, accepted, written, HistoryFile.read_write_append_iff accepted writable⟩

/-- **The codec of history documents loses nothing.** Whatever texts, severities, line numbers and times
some entries have, their document has a line for each part, two blanks further in for each bracket around
it, in printable ASCII. It is read as the same entries in the same order, exactly if no text holds a lone
surrogate and no line number has more digits than a numeral may have. A save that returns its entry leaves
at the path the document of the entries from before and the new one, and it is read as them if the new one
is Unicode text. And in whatever form a document has been read, what it was read as is written as a document
that holds the same entries, and that stays the same bytes when it is read and written once more. -/
theorem history_codec_lossless :
    (∀ entries : List HistoryEntry,
      HistoryDocument.write entries = Text.Utf8.encode
        (List.intercalate ['\n'] (Json.page 0 [] [] (.arr (entries.map HistoryEntry.toJson)))) ∧
      (∀ byte ∈ HistoryDocument.write entries, byte = 0x0a ∨ 0x20 ≤ byte ∧ byte < 0x7f) ∧
      (HistoryDocument.read (HistoryDocument.write entries) = .ok entries ↔
        ∀ entry ∈ entries, entry.isUnicode = true ∧ ∀ finding ∈ entry.findings,
          finding.line.number < 10 ^ Decimal.maxNumeralLength)) ∧
    (∀ (file : HistoryFile) (tree : FileTree) (entry result : HistoryEntry),
      (file.save tree entry).outcome = .ok result →
        ∃ old, file.entries tree = .ok old ∧
          ((file.save tree entry).finalTree tree).read file.path =
            .ok (HistoryDocument.write (old ++ [entry])) ∧
          (HistoryDocument.read (HistoryDocument.write (old ++ [entry])) = .ok (old ++ [entry]) ↔
            entry.isUnicode = true)) ∧
    ∀ (bytes : List UInt8) (entries : List HistoryEntry),
      HistoryDocument.read bytes = .ok entries →
        HistoryDocument.read (HistoryDocument.write entries) = .ok entries ∧
        (HistoryDocument.read (HistoryDocument.write entries)).map HistoryDocument.write =
          .ok (HistoryDocument.write entries) := by
  refine ⟨?_, ?_, ?_⟩
  · intro entries
    exact ⟨HistoryDocument.write_eq_page entries, fun _ => HistoryDocument.ascii_of_mem_write,
      HistoryDocument.read_write_iff⟩
  · intro file tree entry result saved
    exact HistoryFile.read_of_save saved
  · intro bytes entries accepted
    exact ⟨HistoryDocument.read_write (HistoryDocument.isWritable_of_read accepted)
      (HistoryDocument.isUnicode_of_read accepted), HistoryDocument.map_write_read_write accepted⟩

/-- An entry with a null character, quotes, a backslash, characters beyond ASCII and beyond sixteen bits, a
line number beyond sixty-four bits, and a time half an hour west of universal time. -/
def motleyEntry : HistoryEntry :=
  ⟨"\"\x00\"", "é\\\t😀.js",
    [⟨.high, "\x7f/", ⟨10 ^ 30⟩, "\n", "\u2028"⟩, ⟨.low, "", .first, "", ""⟩],
    ⟨⟨1, 2, 3, by decide⟩, ⟨23, 59, 59, 7, by decide⟩, some ⟨-30, by decide⟩⟩⟩

/-- The document of an entry in a form that is never written: a name is given twice, a character as a pair
of escapes, a line number as a truth value, and an offset without its colon. -/
def motleyDocument : List UInt8 :=
  Text.Utf8.encode ("\t[ \x7b\"id\":\"\",\"id\":\"\\ud83d\\ude00\",\"file_name\":\"é\",\"findings\":[\x7b\"severity\":"
    ++ "\"low\",\"message\":\"\",\"line\":true,\"rule\":\"\",\"improvement\":\"\",\"more\":[null]\x7d],"
    ++ "\"created_at\":\"2024-02-29 08:30-0030\"\x7d]\n").toList

/-- Two such entries are read as they are written, one of them is saved to a missing file, and the document
in another form is written anew. -/
theorem history_codec_lossless_motley_texts :
    let file : HistoryFile := ⟨⟨"/", ["h.json"]⟩⟩
    let entries := [motleyEntry, motleyEntry]
    let known : HistoryEntry := ⟨"😀", "é", [⟨.low, "", .first, "", ""⟩],
      ⟨⟨2024, 2, 29, by decide⟩, ⟨8, 30, 0, 0, by decide⟩, some ⟨-30, by decide⟩⟩⟩
    (∀ entry ∈ entries, entry.isUnicode = true ∧ ∀ finding ∈ entry.findings,
      finding.line.number < 10 ^ Decimal.maxNumeralLength) ∧
    HistoryDocument.read (HistoryDocument.write entries) = .ok entries ∧
    (file.save ⟨[], []⟩ motleyEntry).outcome = .ok motleyEntry ∧
    (∃ old, file.entries ⟨[], []⟩ = .ok old ∧
      ((file.save ⟨[], []⟩ motleyEntry).finalTree ⟨[], []⟩).read file.path =
        .ok (HistoryDocument.write (old ++ [motleyEntry])) ∧
      HistoryDocument.read (HistoryDocument.write (old ++ [motleyEntry])) =
        .ok (old ++ [motleyEntry])) ∧
    HistoryDocument.read motleyDocument = .ok [known] ∧
    (HistoryDocument.read (HistoryDocument.write [known])).map HistoryDocument.write =
      .ok (HistoryDocument.write [known]) := by
  intro file entries known
  obtain ⟨written, saved, reread⟩ := history_codec_lossless
  have short : ∀ entry ∈ entries, entry.isUnicode = true ∧ ∀ finding ∈ entry.findings,
      finding.line.number < 10 ^ Decimal.maxNumeralLength := by decide +kernel
  have returned : (file.save ⟨[], []⟩ motleyEntry).outcome.toOption = some motleyEntry := by
    decide +kernel
  have outcome : (file.save ⟨[], []⟩ motleyEntry).outcome = .ok motleyEntry := by
    cases result : (file.save ⟨[], []⟩ motleyEntry).outcome with
    | error error =>
        rw [result] at returned
        cases returned
    | ok entry =>
        rw [result] at returned
        exact congrArg Except.ok (Option.some.inj returned)
  have accepted : HistoryDocument.read motleyDocument = .ok [known] := by decide +kernel
  obtain ⟨old, held, stands, back⟩ := saved file _ _ _ outcome
  exact ⟨short, (written entries).2.2.mpr short, outcome, ⟨old, held, stands, back.mpr rfl⟩, accepted,
    (reread _ _ accepted).2⟩

end SourceAudit
