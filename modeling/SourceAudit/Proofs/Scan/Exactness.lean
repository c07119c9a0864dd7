import SourceAudit.Proofs.Catalog
import SourceAudit.Proofs.Finding.RoundTrip
import SourceAudit.Proofs.Text.Loose
import SourceAudit.Scan

/-!
# Scans are exact

A scan lists findings by the position of their rule in the profile, those of one rule by line. Its
pairs of position and line are exactly those at which the rules are to report
(`Rules.mem_places_iff`), in strictly ascending order (`Rules.pairwise_places`), so that no finding is
missing, made up, repeated or out of order (`scan_exact`).
-/

namespace SourceAudit

open Text (lines)

namespace Rules

/-- The places of a text at which some rules report: the position of the rule, and the line. -/
def places (rules : List Rule) (text : List Char) : List (Nat × LineNumber) :=
  rules.zipIdx.flatMap fun (rule, position) => (rule.detector.detect text).map (position, ·)

/-- A place comes before another: its rule does, or the rule is the same and the line does. In this
order the findings of a scan are listed. -/
def Precedes (first second : Nat × LineNumber) : Prop :=
  first.1 < second.1 ∨ (first.1 = second.1 ∧ first.2.number < second.2.number)

variable {rules : List Rule} {text : List Char}

theorem mem_places_iff (free : ∀ rule ∈ rules, rule.detector.FreeOf '\n') {position : Nat}
    {line : LineNumber} :
    (position, line) ∈ places rules text ↔
      ∃ rule, rules[position]? = some rule ∧ rule.detector.Reports text line := by
  simp only [places, List.mem_flatMap, List.mem_map, Prod.mk.injEq, Prod.exists]
  constructor
  · rintro ⟨rule, _, member, _, detected, rfl, rfl⟩
    have present := List.mem_zipIdx_iff_getElem?.mp member
    have unbroken := free rule (List.mem_of_getElem? present)
    exact ⟨rule, present, (Detector.mem_detect_iff unbroken).mp detected⟩
  · rintro ⟨rule, present, reports⟩
    have unbroken := free rule (List.mem_of_getElem? present)
    exact ⟨rule, position, List.mem_zipIdx_iff_getElem?.mpr present, line,
      (Detector.mem_detect_iff unbroken).mpr reports, rfl, rfl⟩

theorem pairwise_places (free : ∀ rule ∈ rules, rule.detector.FreeOf '\n') :
    (places rules text).Pairwise Precedes := by
  rw [places, List.pairwise_flatMap]
  constructor
  · rintro ⟨rule, position⟩ member
    have unbroken := free rule (List.mem_of_getElem? (List.mem_zipIdx_iff_getElem?.mp member))
    rw [List.pairwise_map]
    refine (Detector.pairwise_detect unbroken text).imp fun less => .inr ⟨rfl, ?_⟩
    exact Nat.succ_lt_succ less
  · apply (pairwise_positions rules).imp
    intro first second less place member other otherMember
    obtain ⟨_, _, rfl⟩ := List.mem_map.mp member
    obtain ⟨_, _, rfl⟩ := List.mem_map.mp otherMember
    exact .inl less

/-- The findings of some rules are what the rules say about their places, in order. -/
theorem forall₂_places :
    List.Forall₂
      (fun place finding => ∃ rule, rules[place.1]? = some rule ∧
        finding = ⟨rule.severity, rule.message, place.2, rule.id, rule.improvement⟩)
      (places rules text) (rules.flatMap (·.findings text)) := by
  have byRule : rules.flatMap (·.findings text) =
      rules.zipIdx.flatMap fun entry => entry.1.findings text := by
    conv_lhs => rw [← List.zipIdx_map_fst 0 rules]
    rw [List.flatMap_map]
  rw [places, byRule]
  -- The rules are followed one by one, each at its position.
  have positions : List.Forall₂ (fun first second => first = second ∧ rules[first.2]? = some first.1)
      rules.zipIdx rules.zipIdx := by
    rw [List.forall₂_same]
    exact fun entry member => ⟨rfl, List.mem_zipIdx_iff_getElem?.mp member⟩
  apply List.rel_flatMap positions
  rintro ⟨rule, position⟩ _ ⟨rfl, present⟩
  simp only [Rule.findings, List.forall₂_map_left_iff, List.forall₂_map_right_iff,
    List.forall₂_same]
  intro line _
  exact ⟨rule, present, rfl⟩

/-- A finding of some rules stands at one of their places. -/
theorem exists_place {finding : Finding} (member : finding ∈ rules.flatMap (·.findings text)) :
    ∃ rule ∈ rules, ∃ line ∈ rule.detector.detect text, finding = rule.findingAt line := by
  obtain ⟨rule, listed, found⟩ := List.mem_flatMap.mp member
  obtain ⟨line, detected, rfl⟩ := List.mem_map.mp found
  exact ⟨rule, listed, line, detected, rfl⟩

/-- Rules with different identifiers repeat no pair of identifier and line. -/
theorem nodup_findings (free : ∀ rule ∈ rules, rule.detector.FreeOf '\n')
    (distinct : (rules.map (·.id)).Nodup) :
    ((rules.flatMap (·.findings text)).map fun finding => (finding.rule, finding.line)).Nodup := by
  rw [List.map_flatMap, List.nodup_iff_pairwise_ne, List.pairwise_flatMap]
  constructor
  · intro rule listed
    rw [Rule.findings, List.map_map, List.pairwise_map]
    apply (Detector.pairwise_detect (free rule listed) text).imp
    intro first second less same
    have sameLine : first = second := congrArg Prod.snd same
    rw [sameLine] at less
    exact Nat.lt_irrefl _ less
  · rw [List.nodup_iff_pairwise_ne, List.pairwise_map] at distinct
    apply distinct.imp
    intro first second apart pair member other otherMember same
    simp only [Rule.findings, List.map_map, List.mem_map] at member otherMember
    obtain ⟨_, _, rfl⟩ := member
    obtain ⟨_, _, rfl⟩ := otherMember
    exact apart (LooseText.unicode_inj.mp (congrArg Prod.fst same))

/-- A line that is reported is one of the lines of the text. -/
theorem number_le_of_mem_detect {detector : Detector} {line : LineNumber}
    (free : detector.FreeOf '\n') (detected : line ∈ detector.detect text) :
    line.number ≤ 1 + text.count '\n' := by
  obtain ⟨⟨content, present, -⟩, -⟩ := (Detector.mem_detect_iff free).mp detected
  obtain ⟨inside, -⟩ := List.getElem?_eq_some_iff.mp present
  rw [Text.length_lines] at inside
  rw [LineNumber.number]
  omega

end Rules

/-- **A scan is exact.** For an extension with a profile, the places of the findings are in strictly
ascending order and are those at which the rules of the profile are to report; each finding carries
the severity and the texts of its rule, and is accepted as a finding. No pair of rule and line is
repeated, every line is one of the text, and no rule has to fall back to the first line. Any other
extension has no findings. -/
theorem scan_exact (content extension : String) :
    (∀ rules, (normalizeExtension extension, rules) ∈ Catalog.profiles →
      (∃ places : List (Nat × LineNumber),
        places.Pairwise Rules.Precedes ∧
        (∀ position line, (position, line) ∈ places ↔
          ∃ rule, rules[position]? = some rule ∧ rule.detector.Reports content.toList line) ∧
        List.Forall₂
          (fun place finding => ∃ rule, rules[place.1]? = some rule ∧
            finding = ⟨rule.severity, rule.message, place.2, rule.id, rule.improvement⟩)
          places (scan content extension)) ∧
      (∀ finding ∈ scan content extension,
        1 ≤ finding.line.number ∧ finding.line.number ≤ 1 + content.toList.count '\n' ∧
          Finding.ofFields finding.toJson = .ok finding) ∧
      ((scan content extension).map fun finding => (finding.rule, finding.line)).Nodup ∧
      ∀ rule ∈ rules, ¬ rule.detector.FallsBack content.toList) ∧
    ((∀ rules, (normalizeExtension extension, rules) ∉ Catalog.profiles) →
      scan content extension = []) := by
  constructor
  · intro rules listed
    have free : ∀ rule ∈ rules, rule.detector.FreeOf '\n' :=
      fun rule member => (Catalog.freeOf_of_mem_profiles _ listed rule member).1
    have found : scan content extension = rules.flatMap (·.findings content.toList) := by
      rw [scan, Catalog.profileFor_eq_of_mem listed]
    rw [found]
    refine ⟨⟨Rules.places rules content.toList, Rules.pairwise_places free,
      fun position line => Rules.mem_places_iff free, Rules.forall₂_places⟩, ?_,
      Rules.nodup_findings free (Catalog.nodup_ids _ listed),
      fun rule member => Detector.not_fallsBack (free rule member) content.toList⟩
    intro finding member
    obtain ⟨rule, ruleListed, line, detected, rfl⟩ := Rules.exists_place member
    exact ⟨Nat.succ_pos line.before, Rules.number_le_of_mem_detect (free rule ruleListed) detected,
      Finding.ofFields_toJson _⟩
  · intro unlisted
    rw [scan, Catalog.profileFor_eq_nil unlisted]
    rfl

/-- A text in the catalog's kind of file, whose extension is spelled in another way, and one in a kind
of file that the catalog does not know. -/
theorem scan_exact_javascript_text :
    (normalizeExtension ".JS", Catalog.javascript) ∈ Catalog.profiles ∧
      (∃ places : List (Nat × LineNumber),
        places.Pairwise Rules.Precedes ∧
        (∀ position line, (position, line) ∈ places ↔
          ∃ rule, Catalog.javascript[position]? = some rule ∧
            rule.detector.Reports "eval(a)\n\neval(b) // FIXME".toList line) ∧
        List.Forall₂
          (fun place finding => ∃ rule, Catalog.javascript[place.1]? = some rule ∧
            finding = ⟨rule.severity, rule.message, place.2, rule.id, rule.improvement⟩)
          places (scan "eval(a)\n\neval(b) // FIXME" ".JS")) ∧
      (∀ rules, (normalizeExtension "txt", rules) ∉ Catalog.profiles) ∧
      scan "eval(a)" "txt" = [] := by
  have listed : (normalizeExtension ".JS", Catalog.javascript) ∈ Catalog.profiles := by
    have spelled : normalizeExtension ".JS" = "js" := by decide +kernel
    rw [spelled]
    exact List.mem_cons_self
  have unlisted : ∀ rules, (normalizeExtension "txt", rules) ∉ Catalog.profiles := by
    have spelled : normalizeExtension "txt" = "txt" := by decide +kernel
    intro rules member
    rw [spelled] at member
    simp [Catalog.profiles] at member
  exact ⟨listed, ((scan_exact "eval(a)\n\neval(b) // FIXME" ".JS").1 _ listed).1, unlisted,
    (scan_exact "eval(a)" "txt").2 unlisted⟩

end SourceAudit
