import SourceAudit.Proofs.Scan.Composition

/-!
# Text around a part

Whatever stands before and after a part of a text, a line of the part that is hit belongs to a line of
the whole that is hit (`Detector.HitsLine.of_part`): what a detector looks for is not lost when the line
around it grows. So a sweep reports every line of the part further down, and any other detector reports
some line no further down than that of the part. No text around a part hides what a scan finds in it
(`scan_surrounded`).
-/

namespace SourceAudit

namespace Detector

variable {detector : Detector} {part : List Char} {line : LineNumber}

/-- A line of a part of a text that is hit is a part of a line of the text that is hit. -/
theorem HitsLine.of_part (hits : detector.HitsLine part line) (before after : List Char) :
    detector.HitsLine (before ++ part ++ after) (line.shift (before.count '\n')) := by
  obtain ⟨content, present, hit⟩ := hits
  obtain ⟨whole, found, within⟩ := Text.exists_line_of_part present before after
  exact ⟨whole, found, hit.mono within⟩

/-- A sweep reports the lines of a part among those of the text. -/
theorem mem_detect_of_part (unbroken : detector.FreeOf '\n') (sweeps : detector.isSweep = true)
    (reported : line ∈ detector.detect part) (before after : List Char) :
    line.shift (before.count '\n') ∈ detector.detect (before ++ part ++ after) := by
  obtain ⟨hits, -⟩ := (mem_detect_iff unbroken).mp reported
  refine (mem_detect_iff unbroken).mpr ⟨hits.of_part before after, fun once => ?_⟩
  cases sweeps.symm.trans once

/-- Any other detector reports one line of the text, no further down than that of the part. -/
theorem exists_detect_of_part (unbroken : detector.FreeOf '\n') (once : detector.isSweep = false)
    (reported : line ∈ detector.detect part) (before after : List Char) :
    ∃ first : LineNumber, detector.detect (before ++ part ++ after) = [first] ∧
      first.number ≤ before.count '\n' + line.number := by
  obtain ⟨hits, -⟩ := (mem_detect_iff unbroken).mp reported
  have below := hits.of_part before after
  rw [detect_eq unbroken, once, if_neg Bool.false_ne_true]
  cases found : firstLine detector.test (before ++ part ++ after) with
  | none =>
      obtain ⟨content, present, passes⟩ := hitsLine_iff.mp below
      rw [firstLine_eq_none_iff.mp found content (List.mem_of_getElem? present)] at passes
      cases passes
  | some first =>
      refine ⟨first, rfl, ?_⟩
      obtain ⟨-, none⟩ := firstLine_test_eq_some_iff.mp found
      have above : ¬ (line.shift (before.count '\n')).before < first.before :=
        fun less => none _ less below
      simp only [LineNumber.shift, LineNumber.number] at above ⊢
      omega

end Detector

/-- **Text around a part of a text hides nothing that a scan finds in the part.** Every rule with a
finding in the part has one in the whole. A sweep has all lines of the part there, further down by the
number of line feeds before the part; any other rule has one line, which is no further down than that.
Nothing is asked of the texts at the joints, where the first and the last line of the part grow. -/
theorem scan_surrounded (before part after extension : String) :
    (∀ finding ∈ scan part extension,
      ∃ found ∈ scan (before ++ part ++ after) extension, found.rule = finding.rule) ∧
    ∀ rule ∈ Catalog.profileFor (normalizeExtension extension),
      ∀ finding ∈ rule.own (scan part extension),
        let count := before.toList.count '\n'
        let reported := rule.own (scan (before ++ part ++ after) extension)
        if rule.detector.isSweep then finding.shift count ∈ reported
        else ∃ line : LineNumber, reported = [rule.findingAt line] ∧
          line.number ≤ count + finding.line.number := by
  let rules := Catalog.profileFor (normalizeExtension extension)
  let count := before.toList.count '\n'
  let whole := scan (before ++ part ++ after) extension
  have distinct : (rules.map (·.id)).Nodup := Catalog.nodup_profileFor _
  have own {rule : Rule} (listed : rule ∈ rules) (content : String) :
      rule.own (scan content extension) = rule.findings content.toList :=
    Rules.filter_findings distinct listed content.toList
  have joined : (before ++ part ++ after).toList = before.toList ++ part.toList ++ after.toList := by
    simp only [String.toList_append]
  have kept : ∀ rule ∈ rules, ∀ finding ∈ rule.own (scan part extension),
      if rule.detector.isSweep then finding.shift count ∈ rule.own whole
      else ∃ line : LineNumber, rule.own whole = [rule.findingAt line] ∧
        line.number ≤ count + finding.line.number := by
    intro rule listed finding member
    have unbroken : rule.detector.FreeOf '\n' := (Catalog.freeOf_of_mem_profileFor listed).1
    rw [own listed] at member
    obtain ⟨line, reported, rfl⟩ := List.mem_map.mp member
    rw [own listed, joined]
    split
    next sweeps =>
      exact List.mem_map_of_mem
        (Detector.mem_detect_of_part unbroken sweeps reported before.toList after.toList)
    next once =>
      obtain ⟨first, alone, above⟩ := Detector.exists_detect_of_part unbroken
        (Bool.eq_false_iff.mpr once) reported before.toList after.toList
      refine ⟨first, ?_, above⟩
      rw [Rule.findings, alone, List.map_singleton]
  refine ⟨fun finding member => ?_, kept⟩
  obtain ⟨rule, listed, found⟩ := List.mem_flatMap.mp member
  rw [← own listed] at found
  have same : finding.rule = rule.id := eq_of_beq (List.mem_filter.mp found).2
  have present := kept rule listed finding found
  split at present
  next => exact ⟨_, (List.mem_filter.mp present).1, rfl⟩
  next =>
    obtain ⟨line, alone, -⟩ := present
    have member : rule.findingAt line ∈ rule.own whole := by
      rw [alone]
      exact List.mem_singleton_self _
    exact ⟨_, (List.mem_filter.mp member).1, same.symm⟩

/-- A call and an assignment between quotes that belong to neither: both are found one line further
down. -/
theorem scan_surrounded_stray_quotes :
    let part := "console.log(password = 'a')"
    let whole := scan ("x\n'" ++ part ++ "\"\npassword") "js"
    (∃ rule ∈ Catalog.javascript, rule.detector = .sweep "console.log" ∧
      rule.findingAt .first ∈ rule.own (scan part "js") ∧ rule.findingAt ⟨1⟩ ∈ rule.own whole) ∧
    ∃ rule ∈ Catalog.javascript, rule.detector = .hardcodedPassword ∧
      rule.findingAt .first ∈ rule.own (scan part "js") ∧
      ∃ line : LineNumber, rule.own whole = [rule.findingAt line] ∧ line.number ≤ 2 := by
  intro part whole
  have profile : Catalog.profileFor (normalizeExtension "js") = Catalog.javascript := by
    have spelled : normalizeExtension "js" = "js" := by decide +kernel
    rw [spelled]
    rfl
  obtain ⟨-, kept⟩ := scan_surrounded "x\n'" part "\"\npassword" "js"
  rw [profile] at kept
  have sweep := kept Catalog.javascript[4] (List.getElem_mem _)
    (Catalog.javascript[4].findingAt .first) (by decide +kernel)
  have secret := kept Catalog.javascript[3] (List.getElem_mem _)
    (Catalog.javascript[3].findingAt .first) (by decide +kernel)
  exact ⟨⟨_, List.getElem_mem _, rfl, by decide +kernel, sweep⟩,
    ⟨_, List.getElem_mem _, rfl, by decide +kernel, secret⟩⟩

end SourceAudit
