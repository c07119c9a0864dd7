import SourceAudit.Proofs.Catalog
import SourceAudit.Scan
import Mathlib.Data.List.Forall2

/-!
# Blanks at the ends of lines

A text is padded by blanks at the ends of its lines (`Text.Padded`), for instance by a carriage return
in front of each line feed (`Text.padded_withReturns`). Nothing that the catalog looks for ends in a
blank, though some of it starts with one, so no blank at the end of a line is part of what is found
there (`Detector.hits_append_blanks_iff`), and padding changes no report
(`Detector.detect_of_padded`). Hence a scan does not depend on the blanks at the ends of lines
(`scan_padded_lines`).
-/

namespace SourceAudit

namespace Text

/-- Whether the last character of a text, if it has one, is no blank. -/
def endsSolid (text : List Char) : Bool :=
  text.getLast?.all (!isBlank ·)

/-- The lines of the second text are those of the first one with blanks put to their ends. There are
as many lines, as no line feed is among the blanks. -/
def Padded (text padded : List Char) : Prop :=
  List.Forall₂ (fun line longer => ∃ blanks, isAllBlank blanks = true ∧ longer = line ++ blanks)
    (lines text) (lines padded)

/-- A text with a carriage return in front of each line feed, as some editors write it. -/
def withReturns (text : List Char) : List Char :=
  text.flatMap fun c => if c = '\n' then ['\r', '\n'] else [c]

variable {token line blanks : List Char}

/-- A part that is within blanks ends no text that ends solid, unless it is empty. -/
theorem eq_nil_of_suffix (solid : endsSolid token = true) {part : List Char}
    (ends : part <:+ token) (within : ∀ c ∈ part, isBlank c = true) : part = [] := by
  rcases List.eq_nil_or_concat' part with rfl | ⟨front, last, rfl⟩
  · rfl
  · obtain ⟨before, rfl⟩ := ends
    have blank : isBlank last = true := within last (by simp)
    rw [endsSolid, ← List.append_assoc, List.getLast?_concat, Option.all_some, blank] at solid
    cases solid

/-- Blanks behind a line are no part of what ends solid. -/
theorem infix_append_blanks_iff (solid : endsSolid token = true) (blank : isAllBlank blanks = true) :
    token <:+: line ++ blanks ↔ token <:+: line := by
  rw [isAllBlank, List.all_eq_true] at blank
  rw [List.infix_append_iff]
  constructor
  · rintro (inside | behind | ⟨left, right, rfl, ending, start⟩)
    · exact inside
    · have none : token = [] :=
        eq_nil_of_suffix solid List.suffix_rfl fun c member => blank c (behind.mem member)
      rw [none]
      exact List.nil_infix
    · have none : right = [] :=
        eq_nil_of_suffix solid (List.suffix_append left right)
          fun c member => blank c (start.mem member)
      rw [none, List.append_nil]
      exact ending.isInfix
  · exact .inl

theorem lines_intercalate {rows : List (List Char)} (unbroken : ∀ row ∈ rows, '\n' ∉ row)
    (present : rows ≠ []) : lines (['\n'].intercalate rows) = rows := by
  rw [lines, splitOn_eq_listSplitOn]
  exact List.splitOn_intercalate '\n' unbroken present

/-- Lines that are padded one by one make a padded text. -/
theorem padded_intercalate {rows : List (List Char × List Char)}
    (unbroken : ∀ row ∈ rows, '\n' ∉ row.1 ∧ '\n' ∉ row.2)
    (blank : ∀ row ∈ rows, isAllBlank row.2 = true) :
    Padded (['\n'].intercalate (rows.map fun row => row.1))
      (['\n'].intercalate (rows.map fun row => row.1 ++ row.2)) := by
  by_cases none : rows = []
  · subst none
    exact .cons ⟨[], rfl, rfl⟩ .nil
  · have short : ∀ line ∈ rows.map fun row => row.1, '\n' ∉ line := by
      intro line member
      obtain ⟨row, listed, rfl⟩ := List.mem_map.mp member
      exact (unbroken row listed).1
    have long : ∀ line ∈ rows.map fun row => row.1 ++ row.2, '\n' ∉ line := by
      intro line member
      obtain ⟨row, listed, rfl⟩ := List.mem_map.mp member
      rw [List.mem_append, not_or]
      exact unbroken row listed
    rw [Padded, lines_intercalate short (by simpa using none),
      lines_intercalate long (by simpa using none), List.forall₂_map_left_iff,
      List.forall₂_map_right_iff, List.forall₂_same]
    exact fun row listed => ⟨row.2, blank row listed, rfl⟩

theorem withReturns_eq_self (unbroken : '\n' ∉ line) : withReturns line = line := by
  have kept : ∀ c ∈ line, (if c = '\n' then ['\r', '\n'] else [c]) = [c] := by
    intro c member
    have other : c ≠ '\n' := fun same => unbroken (same ▸ member)
    exact if_neg other
  rw [withReturns, List.flatMap_congr kept, List.flatMap_singleton']

/-- Carriage returns in front of the line feeds pad the lines before them. -/
theorem padded_withReturns (text : List Char) : Padded text (withReturns text) := by
  induction text using lines_induction with
  | single line unbroken =>
      rw [withReturns_eq_self unbroken, Padded, lines_eq_singleton unbroken]
      exact .cons ⟨[], rfl, (List.append_nil line).symm⟩ .nil
  | more line rest unbroken ih =>
      have split : withReturns (line ++ '\n' :: rest) =
          (line ++ ['\r']) ++ '\n' :: withReturns rest := by
        rw [withReturns, List.flatMap_append, ← withReturns, withReturns_eq_self unbroken,
          List.flatMap_cons, if_pos rfl, List.append_assoc]
        rfl
      have ended : '\n' ∉ line ++ ['\r'] := by
        simpa [List.mem_append] using unbroken
      rw [split, Padded, lines_append_break, lines_append_break, lines_eq_singleton unbroken,
        lines_eq_singleton ended]
      exact .cons ⟨['\r'], by decide, rfl⟩ ih

end Text

namespace Detector

open Text (lines Padded)

/-- Whether nothing that a detector looks for ends in a blank. -/
def seeksSolid : Detector → Bool
  | .substring token => Text.endsSolid token.toList
  | .sweep token => Text.endsSolid token.toList
  | .anyOf tokens => tokens.all fun token => Text.endsSolid token.toList
  | .hardcodedPassword => true

variable {detector : Detector} {line blanks text padded : List Char}

/-- An assignment ends in a quote. -/
theorem endsSolid_of_assignment {part : List Char} (assigns : Password.Assignment part) :
    Text.endsSolid part = true := by
  obtain ⟨before, closing, rfl, quote⟩ := assigns.exists_closing
  rw [Text.endsSolid, List.getLast?_concat, Option.all_some, Password.isBlank_quote quote]
  rfl

/-- Blanks behind a line make no difference to what is in it. -/
theorem hits_append_blanks_iff (solid : detector.seeksSolid = true)
    (blank : Text.isAllBlank blanks = true) :
    detector.Hits (line ++ blanks) ↔ detector.Hits line := by
  cases detector with
  | substring token => exact Text.infix_append_blanks_iff solid blank
  | sweep token => exact Text.infix_append_blanks_iff solid blank
  | anyOf tokens =>
      refine exists_congr fun token => and_congr_right fun member => ?_
      exact Text.infix_append_blanks_iff (List.all_eq_true.mp solid token member) blank
  | hardcodedPassword =>
      refine exists_congr fun part => and_congr_right fun assigns => ?_
      exact Text.infix_append_blanks_iff (endsSolid_of_assignment assigns) blank

/-- The lines of a padded text pass a test where those of the text do. -/
theorem map_test_of_padded (solid : detector.seeksSolid = true) (pads : Padded text padded) :
    (lines padded).map detector.test = (lines text).map detector.test := by
  rw [← List.forall₂_eq_eq_eq, List.forall₂_map_left_iff, List.forall₂_map_right_iff]
  refine pads.flip.imp fun longer line padding => ?_
  obtain ⟨blanks, blank, rfl⟩ := padding
  rw [Bool.eq_iff_iff, test_iff_hits, test_iff_hits]
  exact hits_append_blanks_iff solid blank

section Tests

variable {test : List Char → Bool} {first second : List Char}

/-- The lines that pass a test are told from the outcomes of the test alone. -/
theorem everyLine_congr (same : (lines first).map test = (lines second).map test) :
    everyLine test first = everyLine test second := by
  have outcomes (text : List Char) : everyLine test text =
      ((lines text).map test).zipIdx.filterMap fun (passes, before) =>
        if passes then some ⟨before⟩ else none := by
    rw [everyLine, List.zipIdx_map, List.filterMap_map]
    rfl
  rw [outcomes, outcomes, same]

theorem firstLine_congr (same : (lines first).map test = (lines second).map test) :
    firstLine test first = firstLine test second := by
  have outcomes (text : List Char) : firstLine test text =
      (((lines text).map test).findIdx? id).map LineNumber.mk := by
    rw [firstLine, List.findIdx?_map]
    rfl
  rw [outcomes, outcomes, same]

end Tests

/-- **Padding a text changes no report.** -/
theorem detect_of_padded (unbroken : detector.FreeOf '\n') (solid : detector.seeksSolid = true)
    (pads : Padded text padded) : detector.detect padded = detector.detect text := by
  have same := map_test_of_padded solid pads
  rw [detect_eq unbroken, detect_eq unbroken, everyLine_congr same, firstLine_congr same]

end Detector

namespace Catalog

/-- No token of the catalog ends in a blank. -/
theorem seeksSolid_of_mem_profiles :
    ∀ entry ∈ profiles, ∀ rule ∈ entry.2, rule.detector.seeksSolid = true := by
  decide +kernel

theorem seeksSolid_of_mem_profileFor {extension : String} {rule : Rule}
    (listed : rule ∈ profileFor extension) : rule.detector.seeksSolid = true :=
  seeksSolid_of_mem_profiles _ (mem_profiles_of_mem_profileFor listed) rule listed

end Catalog

/-- A padded text is scanned as the text is. -/
theorem scan_of_padded {content padded : String} (pads : Text.Padded content.toList padded.toList)
    (extension : String) : scan padded extension = scan content extension := by
  refine List.flatMap_congr fun rule listed => ?_
  have unbroken : rule.detector.FreeOf '\n' := (Catalog.freeOf_of_mem_profileFor listed).1
  rw [Rule.findings, Rule.findings,
    Detector.detect_of_padded unbroken (Catalog.seeksSolid_of_mem_profileFor listed) pads]

/-- **A scan does not depend on the blanks at the ends of lines.** Lines with blanks put to their ends,
to each line its own, are scanned as the lines without them; so a text whose lines end in a carriage
return and a line feed is scanned as the text whose lines end in a line feed alone. -/
theorem scan_padded_lines (rows : List (String × String)) (extension : String)
    (unbroken : ∀ row ∈ rows, '\n' ∉ row.1.toList ∧ '\n' ∉ row.2.toList)
    (blank : ∀ row ∈ rows, Text.isAllBlank row.2.toList = true) :
    scan ("\n".intercalate (rows.map fun row => row.1 ++ row.2)) extension =
        scan ("\n".intercalate (rows.map fun row => row.1)) extension ∧
      ∀ content : String,
        scan (String.ofList (Text.withReturns content.toList)) extension =
          scan content extension := by
  constructor
  · apply scan_of_padded
    let texts := rows.map fun row => (row.1.toList, row.2.toList)
    have pads : Text.Padded (['\n'].intercalate (texts.map fun row => row.1))
        (['\n'].intercalate (texts.map fun row => row.1 ++ row.2)) :=
      Text.padded_intercalate (List.forall_mem_map.mpr unbroken) (List.forall_mem_map.mpr blank)
    have feed : "\n".toList = ['\n'] := by decide
    simpa only [texts, feed, String.toList_intercalate, List.map_map, Function.comp_def,
      String.toList_append] using pads
  · intro content
    apply scan_of_padded
    rw [String.toList_ofList]
    exact Text.padded_withReturns content.toList

/-- Lines that end in spaces, a tab and a carriage return. A token that starts with a space stands on
the second one; on the third one a space is put to the end, and what would follow it starts the next. -/
theorem scan_padded_lines_mixed_blanks :
    let rows :=
      [("if (a", " \t"), ("b == null) System.out.println(b)", "\r"), ("c", " "), ("!= null", "")]
    (∀ row ∈ rows, '\n' ∉ row.1.toList ∧ '\n' ∉ row.2.toList) ∧
      (∀ row ∈ rows, Text.isAllBlank row.2.toList = true) ∧
      scan "if (a \t\nb == null) System.out.println(b)\r\nc \n!= null" "java" =
        scan "if (a\nb == null) System.out.println(b)\nc\n!= null" "java" ∧
      scan "a\r\n\r\nb == null" "java" = scan "a\n\nb == null" "java" := by
  intro rows
  have unbroken : ∀ row ∈ rows, '\n' ∉ row.1.toList ∧ '\n' ∉ row.2.toList := by decide
  have blank : ∀ row ∈ rows, Text.isAllBlank row.2.toList = true := by decide +kernel
  obtain ⟨padded, returns⟩ := scan_padded_lines rows "java" unbroken blank
  exact ⟨unbroken, blank, padded, returns "a\n\nb == null"⟩

end SourceAudit
