import SourceAudit.Proofs.Report

/-!
# Scans of joined texts

Nothing that a detector looks for stands across a line feed, so a detector reports for two texts with
a line feed between them what it reports for the first one and, further down, for the second one
(`Detector.detect_append_break`). A scan of the whole is therefore put together from the scans of the
parts, rule by rule (`Rules.join`), and in the end from the scans of the single lines
(`scan_append_break`).
-/

namespace SourceAudit

open Text (lines lines_append_break lines_induction)

namespace Detector

/-- A test is passed on the lines of two texts where it is passed on those of each. -/
theorem everyLine_append_break (test : List Char → Bool) (first second : List Char) :
    everyLine test (first ++ '\n' :: second) =
      everyLine test first ++ (everyLine test second).map (·.shift (1 + first.count '\n')) := by
  have numbers : (lines second).zipIdx (lines first).length =
      (lines second).zipIdx.map fun entry => (entry.1, 1 + first.count '\n' + entry.2) := by
    rw [Text.length_lines, List.zipIdx_eq_map_add, Nat.add_comm (first.count '\n') 1]
  rw [everyLine, lines_append_break, List.zipIdx_append, List.filterMap_append, Nat.zero_add, numbers,
    List.filterMap_map, everyLine, everyLine, List.map_filterMap]
  congr 2
  funext entry
  simp only [Function.comp_apply]
  split
  next => rfl
  next => rfl

/-- The first line of two texts that passes a test is that of the first one, or else of the second. -/
theorem firstLine_append_break (test : List Char → Bool) (first second : List Char) :
    firstLine test (first ++ '\n' :: second) =
      (firstLine test first).or ((firstLine test second).map (·.shift (1 + first.count '\n'))) := by
  rw [firstLine, lines_append_break, List.findIdx?_append, Text.length_lines, firstLine, firstLine]
  cases (lines first).findIdx? test with
  | some before => rfl
  | none =>
      cases (lines second).findIdx? test with
      | none => rfl
      | some before => simp [LineNumber.shift, Nat.add_comm]

/-- **What a detector reports for two texts with a line feed between them.** A sweep reports the lines
of both; any other detector reports its line in the first text, or else in the second. -/
theorem detect_append_break {detector : Detector} (unbroken : detector.FreeOf '\n')
    (first second : List Char) :
    detector.detect (first ++ '\n' :: second) =
      if detector.isSweep ∨ detector.detect first = [] then
        detector.detect first ++ (detector.detect second).map (·.shift (1 + first.count '\n'))
      else detector.detect first := by
  rw [detect_eq unbroken, detect_eq unbroken first, detect_eq unbroken second]
  cases detector.isSweep with
  | true =>
      simp only [↓reduceIte, true_or]
      exact everyLine_append_break detector.test first second
  | false =>
      simp only [Bool.false_eq_true, ↓reduceIte, false_or]
      rw [firstLine_append_break]
      cases firstLine detector.test first with
      | some line => rfl
      | none => cases firstLine detector.test second <;> rfl

end Detector

/-- A finding a number of lines further down, with everything else as it was. -/
def Finding.shift (finding : Finding) (count : Nat) : Finding :=
  { finding with line := finding.line.shift count }

namespace Rule

/-- The findings that a rule has made, which show its name. No two rules of a profile have the same
name. -/
def own (rule : Rule) (findings : List Finding) : List Finding :=
  findings.filter (·.rule == rule.id)

/-- What a rule finds in a text, given what it finds in its first `count` lines and what it finds in
the rest. A sweep finds both; any other rule finds the first one of them. -/
def join (rule : Rule) (count : Nat) (first rest : List Finding) : List Finding :=
  if rule.detector.isSweep then first ++ rest.map (·.shift count)
  else if first = [] then rest.map (·.shift count)
  else first

theorem join_nil (rule : Rule) (count : Nat) (first : List Finding) :
    rule.join count first [] = first := by
  rw [join]
  split
  next => exact List.append_nil first
  next =>
    split
    next none => exact none.symm
    next => rfl

theorem findings_append_break {rule : Rule} (unbroken : rule.detector.FreeOf '\n')
    (first second : List Char) :
    rule.findings (first ++ '\n' :: second) =
      rule.join (1 + first.count '\n') (rule.findings first) (rule.findings second) := by
  have shifted (found : List LineNumber) (count : Nat) :
      (found.map (·.shift count)).map rule.findingAt =
        (found.map rule.findingAt).map (·.shift count) := by
    rw [List.map_map, List.map_map]
    rfl
  rw [findings, Detector.detect_append_break unbroken, findings, findings, join]
  cases rule.detector.isSweep with
  | true => simp only [true_or, ↓reduceIte, List.map_append, shifted]
  | false =>
      simp only [Bool.false_eq_true, false_or, ↓reduceIte, List.map_eq_nil_iff]
      split
      next none => rw [none, List.nil_append, shifted]
      next => rfl

end Rule

namespace Rules

/-- What some rules find in a text, given what they find in its first `count` lines and what they find
in the rest. -/
def join (rules : List Rule) (count : Nat) (first rest : List Finding) : List Finding :=
  rules.flatMap fun rule => rule.join count (rule.own first) (rule.own rest)

variable {rules : List Rule}

theorem join_nil (distinct : (rules.map (·.id)).Nodup) (count : Nat) (text : List Char) :
    join rules count (rules.flatMap (·.findings text)) [] = rules.flatMap (·.findings text) := by
  refine List.flatMap_congr fun rule listed => ?_
  rw [Rule.own, filter_findings distinct listed]
  exact rule.join_nil count _

theorem findings_append_break (distinct : (rules.map (·.id)).Nodup)
    (unbroken : ∀ rule ∈ rules, rule.detector.FreeOf '\n') (first second : List Char) :
    rules.flatMap (·.findings (first ++ '\n' :: second)) =
      join rules (1 + first.count '\n') (rules.flatMap (·.findings first))
        (rules.flatMap (·.findings second)) := by
  refine List.flatMap_congr fun rule listed => ?_
  rw [Rule.own, Rule.own, filter_findings distinct listed, filter_findings distinct listed]
  exact Rule.findings_append_break (unbroken rule listed) first second

/-- The findings in a text are those in its single lines, joined. -/
theorem findings_eq_foldr_join (distinct : (rules.map (·.id)).Nodup)
    (unbroken : ∀ rule ∈ rules, rule.detector.FreeOf '\n') (text : List Char) :
    rules.flatMap (·.findings text) =
      ((lines text).map fun line => rules.flatMap (·.findings line)).foldr (join rules 1) [] := by
  induction text using lines_induction with
  | single line apart =>
      rw [Text.lines_eq_singleton apart, List.map_singleton, List.foldr_cons, List.foldr_nil,
        join_nil distinct]
  | more line rest apart ih =>
      rw [lines_append_break, Text.lines_eq_singleton apart, List.singleton_append, List.map_cons,
        List.foldr_cons, ← ih, findings_append_break distinct unbroken,
        List.count_eq_zero_of_not_mem apart]

end Rules

/-- **A scan is put together from the scans of the parts.** For two texts with a line feed between
them, each rule of the profile has in its turn: if it is a sweep, the lines that it has in the first
text and then those that it has in the second one, further down by the number of lines of the first;
if it is not, its line in the first text, or else that in the second one, further down as well. So the
scan of a text is determined by the scans of its single lines. -/
theorem scan_append_break (first second extension : String) :
    let rules := Catalog.profileFor (normalizeExtension extension)
    scan (first ++ "\n" ++ second) extension =
        Rules.join rules (1 + first.toList.count '\n') (scan first extension)
          (scan second extension) ∧
      ∀ content : String, scan content extension =
        ((lines content.toList).map fun line => scan (String.ofList line) extension).foldr
          (Rules.join rules 1) [] := by
  intro rules
  have distinct : (rules.map (·.id)).Nodup := Catalog.nodup_profileFor _
  have unbroken : ∀ rule ∈ rules, rule.detector.FreeOf '\n' :=
    fun rule listed => (Catalog.freeOf_of_mem_profileFor listed).1
  constructor
  · have joined : (first ++ "\n" ++ second).toList = first.toList ++ '\n' :: second.toList := by
      simp
    rw [scan, joined]
    exact Rules.findings_append_break distinct unbroken first.toList second.toList
  · intro content
    simp only [scan, String.toList_ofList]
    exact Rules.findings_eq_foldr_join distinct unbroken content.toList

end SourceAudit
