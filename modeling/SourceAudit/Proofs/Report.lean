import SourceAudit.Proofs.Catalog
import SourceAudit.Proofs.Finding.RoundTrip
import SourceAudit.Proofs.Text.Loose
import SourceAudit.Report
import Mathlib.Data.List.Basic

/-!
# Reports rule by rule

What one rule has found can be told from the other findings of a report by the identifier of the rule
(`Rules.filter_findings`). So two reports on one file name are the same exactly when every rule of the
profile that the selection keeps reports the same lines (`Report.of_eq_iff`), and they are written alike
only then (`Report.toJson_inj`).
-/

namespace SourceAudit

namespace Summary

/-- A summary of some findings: how many of them each severity has, and how many there are. The sum
is said of the findings themselves, not of the other counts. -/
structure Counts (summary : Summary) (findings : List Finding) : Prop where
  high : summary.high = findings.countP (·.severity = .high)
  medium : summary.medium = findings.countP (·.severity = .medium)
  low : summary.low = findings.countP (·.severity = .low)
  total : summary.total = findings.length

/-- Counting some findings after others adds to each count, and leaves the sum as it is. -/
theorem foldl_count (findings : List Finding) (start : Summary) :
    findings.foldl count start =
      ⟨start.high + findings.countP (·.severity = .high),
        start.medium + findings.countP (·.severity = .medium),
        start.low + findings.countP (·.severity = .low), start.total⟩ := by
  induction findings generalizing start with
  | nil => rfl
  | cons finding rest ih =>
      rw [List.foldl_cons, ih]
      cases grave : finding.severity <;> simp [count, grave] <;> omega

/-- Every finding is of one of the severities. -/
theorem countP_severity_add (findings : List Finding) :
    findings.countP (·.severity = .high) + findings.countP (·.severity = .medium) +
      findings.countP (·.severity = .low) = findings.length := by
  induction findings with
  | nil => rfl
  | cons finding rest ih =>
      rw [List.length_cons, ← ih]
      cases grave : finding.severity <;> simp [grave] <;> omega

/-- The counts of findings taken together make a summary of them. -/
theorem counts_of (findings : List Finding) : (of findings).Counts findings := by
  have counted := foldl_count findings empty
  simp only [empty, Nat.zero_add] at counted
  constructor <;> simp only [of, empty, counted, countP_severity_add]

/-- Findings have one summary. -/
theorem Counts.unique {first second : Summary} {findings : List Finding}
    (counts : first.Counts findings) (again : second.Counts findings) : first = second := by
  cases first
  cases second
  simp only [mk.injEq]
  exact ⟨counts.high.trans again.high.symm, counts.medium.trans again.medium.symm,
    counts.low.trans again.low.symm, counts.total.trans again.total.symm⟩

theorem Counts.append {first second : Summary} {findings others : List Finding}
    (counts : first.Counts findings) (more : second.Counts others) :
    (first.add second).Counts (findings ++ others) where
  high := by rw [add, counts.high, more.high, List.countP_append]
  medium := by rw [add, counts.medium, more.medium, List.countP_append]
  low := by rw [add, counts.low, more.low, List.countP_append]
  total := by rw [add, counts.total, more.total, List.length_append]

theorem Counts.perm {summary : Summary} {findings others : List Finding}
    (counts : summary.Counts findings) (reordered : findings.Perm others) :
    summary.Counts others where
  high := counts.high.trans (reordered.countP_eq _)
  medium := counts.medium.trans (reordered.countP_eq _)
  low := counts.low.trans (reordered.countP_eq _)
  total := counts.total.trans reordered.length_eq

/-- In a summary, the counts of the severities sum up to the number of findings. -/
theorem Counts.sum {summary : Summary} {findings : List Finding}
    (counts : summary.Counts findings) :
    summary.total = summary.high + summary.medium + summary.low := by
  rw [counts.total, counts.high, counts.medium, counts.low, countP_severity_add]

end Summary

theorem Rule.findings_inj {rule : Rule} {first second : List Char} :
    rule.findings first = rule.findings second ↔
      rule.detector.detect first = rule.detector.detect second := by
  have distinct : Function.Injective rule.findingAt := by
    intro first second same
    exact congrArg Finding.line same
  exact (List.map_injective_iff.mpr distinct).eq_iff

/-- Without a selection all findings are kept. -/
theorem keepSelected_none (findings : List Finding) : keepSelected none findings = findings := by
  rw [keepSelected, List.filter_eq_self]
  exact fun finding _ => rfl

namespace Rules

/-- The findings of one of several rules are those with its identifier. -/
theorem filter_findings {rules : List Rule} (distinct : (rules.map (·.id)).Nodup) {rule : Rule}
    (listed : rule ∈ rules) (text : List Char) :
    (rules.flatMap (·.findings text)).filter (·.rule == LooseText.unicode rule.id) = rule.findings text := by
  have own (rule : Rule) :
      (rule.findings text).filter (·.rule == LooseText.unicode rule.id) = rule.findings text := by
    rw [List.filter_eq_self]
    intro finding found
    obtain ⟨line, -, rfl⟩ := List.mem_map.mp found
    exact beq_self_eq_true (LooseText.unicode rule.id)
  have foreign {other : Rule} (apart : other.id ≠ rule.id) :
      (other.findings text).filter (·.rule == LooseText.unicode rule.id) = [] := by
    rw [List.filter_eq_nil_iff]
    intro finding found same
    obtain ⟨line, -, rfl⟩ := List.mem_map.mp found
    exact apart (LooseText.unicode_inj.mp (eq_of_beq same))
  induction rules with
  | nil => cases listed
  | cons first others ih =>
      rw [List.map_cons, List.nodup_cons] at distinct
      rw [List.flatMap_cons, List.filter_append]
      rcases List.mem_cons.mp listed with rfl | listed
      · have none : (others.flatMap (·.findings text)).filter (·.rule == LooseText.unicode rule.id) = [] := by
          rw [List.filter_flatMap, List.flatMap_eq_nil_iff]
          intro other member
          refine foreign fun same => distinct.1 ?_
          rw [← same]
          exact List.mem_map_of_mem member
        rw [own, none, List.append_nil]
      · have apart : first.id ≠ rule.id := by
          intro same
          rw [same] at distinct
          exact distinct.1 (List.mem_map_of_mem listed)
        rw [foreign apart, ih distinct.2 listed, List.nil_append]

/-- A selection keeps all findings of a rule or none of them. -/
theorem keepSelected_findings (selection : Severity.Selection) (rule : Rule) (text : List Char) :
    keepSelected selection (rule.findings text) =
      if selection.keeps rule.severity then rule.findings text else [] := by
  split
  next kept =>
    rw [keepSelected, List.filter_eq_self]
    intro finding found
    obtain ⟨line, -, rfl⟩ := List.mem_map.mp found
    exact kept
  next dropped =>
    rw [keepSelected, List.filter_eq_nil_iff]
    intro finding found
    obtain ⟨line, -, rfl⟩ := List.mem_map.mp found
    exact dropped

/-- Selected findings are the same when the rules that the selection keeps report the same lines. -/
theorem keepSelected_eq_iff {rules : List Rule} (distinct : (rules.map (·.id)).Nodup)
    (selection : Severity.Selection) (first second : List Char) :
    keepSelected selection (rules.flatMap (·.findings first)) =
        keepSelected selection (rules.flatMap (·.findings second)) ↔
      ∀ rule ∈ rules, selection.keeps rule.severity = true →
        rule.detector.detect first = rule.detector.detect second := by
  constructor
  · intro same rule listed kept
    have own (text : List Char) :
        (keepSelected selection (rules.flatMap (·.findings text))).filter
            (·.rule == LooseText.unicode rule.id) =
          rule.findings text := by
      rw [keepSelected, List.filter_comm, filter_findings distinct listed, ← keepSelected,
        keepSelected_findings, if_pos kept]
    rw [← Rule.findings_inj, ← own first, ← own second, same]
  · intro same
    rw [keepSelected, keepSelected, List.filter_flatMap, List.filter_flatMap]
    refine List.flatMap_congr fun rule listed => ?_
    rw [← keepSelected, ← keepSelected, keepSelected_findings, keepSelected_findings]
    split
    next kept => exact Rule.findings_inj.mpr (same rule listed kept)
    next => rfl

end Rules

namespace Report

section Parts

variable (content : String) (fileName : LooseText) (selection : Severity.Selection)

@[simp]
theorem fileName_of : (Report.of content fileName selection).fileName = fileName := by
  rw [Report.of]

@[simp]
theorem extension_of : (Report.of content fileName selection).extension = extensionOf fileName := by
  rw [Report.of]

@[simp]
theorem findings_of : (Report.of content fileName selection).findings =
    keepSelected selection (scan content (extensionOf fileName).shown) := by
  rw [Report.of]

@[simp]
theorem summary_of : (Report.of content fileName selection).summary =
    Summary.of (Report.of content fileName selection).findings := by
  rw [Report.of]

end Parts

/-- **Two reports on one file name are the same exactly when the selected rules of its profile report
the same lines.** -/
theorem of_eq_iff (first second : String) (fileName : LooseText) (selection : Severity.Selection) :
    Report.of first fileName selection = Report.of second fileName selection ↔
      ∀ rule ∈ Catalog.profileFor (normalizeExtension (extensionOf fileName).shown),
        selection.keeps rule.severity = true →
          rule.detector.detect first.toList = rule.detector.detect second.toList := by
  rw [← Rules.keepSelected_eq_iff (Catalog.nodup_profileFor _), Report.of, Report.of, scan, scan,
    Report.mk.injEq]
  constructor
  · rintro ⟨-, -, same, -⟩
    exact same
  · intro same
    exact ⟨rfl, rfl, same, congrArg Summary.of same⟩

/-- Reports are written alike only if they are the same. -/
theorem toJson_inj {first second : Report} {scanId : String} :
    first.toJson scanId = second.toJson scanId ↔ first = second := by
  refine ⟨fun same => ?_, fun same => by rw [same]⟩
  have distinct : Function.Injective Finding.toJson := by
    intro first second same
    have read := Finding.ofFields_toJson first
    rw [same, Finding.ofFields_toJson] at read
    exact (Except.ok.inj read).symm
  obtain ⟨name, extension, findings, high, medium, low, total⟩ := first
  obtain ⟨name', extension', findings', high', medium', low', total'⟩ := second
  simp only [toJson, Summary.toJson, Summary.toMembers, Json.obj.injEq, List.cons.injEq,
    Prod.mk.injEq, Json.str.injEq, Json.arr.injEq, Json.int.injEq, Int.natCast_inj, true_and,
    and_true, (List.map_injective_iff.mpr distinct).eq_iff] at same
  obtain ⟨rfl, rfl, rfl, rfl, rfl, rfl, rfl⟩ := same
  rfl

end Report

end SourceAudit
