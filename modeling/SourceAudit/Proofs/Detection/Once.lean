import SourceAudit.Proofs.Detection
import Mathlib.Order.Bounds.Basic

/-!
# Detectors that report once

A sweep reports every line that holds its token; the other detectors of tokens report one line. That line
is the first one of the sweep (`Detector.take_one_everyLine`), but a token with a line feed is swept for
in vain: no line holds it, and where the text does, the first line is reported instead
(`Detector.detect_substring_of_broken`). Of several tokens the least line counts
(`Detector.isLeast_firstNumbers`), in whatever order they are looked for.
-/

namespace SourceAudit

namespace Detector

open Text (lines occurs occurs_iff)

variable {test : List Char → Bool} {text : List Char} {token : String} {tokens others : List String}

/-- The first line that passes a test is the first of all that do. -/
theorem take_one_everyLine (test : List Char → Bool) (text : List Char) :
    (everyLine test text).take 1 = (firstLine test text).toList := by
  cases swept : everyLine test text with
  | nil =>
      have none : firstLine test text = none := by
        rw [firstLine_eq_none_iff]
        intro line member
        obtain ⟨index, present⟩ := List.mem_iff_getElem?.mp member
        rw [Bool.eq_false_iff]
        intro passes
        have reported : ⟨index⟩ ∈ everyLine test text := mem_everyLine.mpr ⟨line, present, passes⟩
        rw [swept] at reported
        cases reported
      rw [none]
      rfl
  | cons line later =>
      have ascending := pairwise_everyLine test text
      rw [swept] at ascending
      have first : firstLine test text = some line := by
        rw [firstLine_eq_some_iff]
        refine ⟨mem_everyLine.mp (swept ▸ List.mem_cons_self), ?_⟩
        intro earlier content less present
        rw [Bool.eq_false_iff]
        intro passes
        have reported := mem_everyLine.mpr ⟨content, present, passes⟩
        rw [swept, List.mem_cons] at reported
        rcases reported with rfl | member
        · exact Nat.lt_irrefl _ less
        · exact Nat.lt_asymm less (List.rel_of_pairwise_cons ascending member)
      rw [first]
      rfl

/-- A token with a line feed stands in no line. -/
theorem not_occurs_of_broken (broken : '\n' ∈ token.toList) :
    ∀ line ∈ lines text, occurs token.toList line = false := by
  intro line member
  rw [Bool.eq_false_iff]
  intro found
  exact Text.not_mem_of_mem_lines member ((occurs_iff.mp found).subset broken)

theorem everyLine_eq_nil (fails : ∀ line ∈ lines text, test line = false) :
    everyLine test text = [] := by
  rw [List.eq_nil_iff_forall_not_mem]
  intro line reported
  obtain ⟨content, present, passes⟩ := mem_everyLine.mp reported
  rw [fails content (List.mem_of_getElem? present)] at passes
  exact Bool.false_ne_true passes

/-- A token without a line feed is reported on the first line that holds it. -/
theorem detect_substring (unbroken : '\n' ∉ token.toList) (text : List Char) :
    (Detector.substring token).detect text = (firstLine (occurs token.toList) text).toList := by
  have free : (Detector.substring token).FreeOf '\n' := unbroken
  exact detect_eq free text

/-- A token with a line feed is reported on the first line, if the text holds it. -/
theorem detect_substring_of_broken (broken : '\n' ∈ token.toList) (text : List Char) :
    (Detector.substring token).detect text =
      if occurs token.toList text then [LineNumber.first] else [] := by
  have none : firstLine (occurs token.toList) text = none :=
    firstLine_eq_none_iff.mpr (not_occurs_of_broken broken)
  rw [detect, onceIfAny, none, Option.getD_none]

/-- Only the set of the tokens counts. -/
theorem detect_anyOf_congr (same : ∀ token, token ∈ tokens ↔ token ∈ others) (text : List Char) :
    (Detector.anyOf tokens).detect text = (Detector.anyOf others).detect text := by
  have tests : occursAny tokens = occursAny others := by
    funext part
    rw [Bool.eq_iff_iff, occursAny_iff, occursAny_iff]
    simp only [same]
  rw [detect, detect, tests]

theorem detect_anyOf_eq_nil_iff :
    (Detector.anyOf tokens).detect text = [] ↔ ∀ token ∈ tokens, ¬ token.toList <:+: text := by
  rw [detect, onceIfAny]
  split
  next found =>
    obtain ⟨token, member, within⟩ := occursAny_iff.mp found
    exact iff_of_false (List.cons_ne_nil _ _) fun absent => absent token member within
  next missed =>
    refine iff_of_true rfl fun token member within => missed ?_
    exact occursAny_iff.mpr ⟨token, member, within⟩

/-- The numbers of the lines on which tokens without a line feed are found first, each by a detector
of its own. A token with a line feed is on no line. -/
def firstNumbers (tokens : List String) (text : List Char) : Set Nat :=
  {number | ∃ token ∈ tokens, '\n' ∉ token.toList ∧
    ∃ line ∈ (Detector.substring token).detect text, line.number = number}

/-- The first line with one of several tokens is the least line on which one of them is found first. -/
theorem isLeast_firstNumbers {line : LineNumber}
    (found : firstLine (occursAny tokens) text = some line) :
    IsLeast (firstNumbers tokens text) line.number := by
  obtain ⟨⟨content, present, passes⟩, first⟩ := firstLine_eq_some_iff.mp found
  constructor
  · obtain ⟨token, member, within⟩ := occursAny_iff.mp passes
    have unbroken : '\n' ∉ token.toList := fun broken =>
      Text.not_mem_of_mem_lines (List.mem_of_getElem? present) (within.subset broken)
    have foundToken : firstLine (occurs token.toList) text = some line := by
      refine firstLine_eq_some_iff.mpr ⟨⟨content, present, occurs_iff.mpr within⟩, ?_⟩
      intro earlier other less presentOther
      have missed := first earlier other less presentOther
      rw [Bool.eq_false_iff] at missed ⊢
      exact fun occursThere => missed (occursAny_iff.mpr ⟨token, member, occurs_iff.mp occursThere⟩)
    refine ⟨token, member, unbroken, line, ?_, rfl⟩
    rw [detect_substring unbroken, foundToken]
    exact List.mem_singleton_self line
  · rintro _ ⟨token, member, unbroken, other, reported, rfl⟩
    rw [detect_substring unbroken, Option.mem_toList] at reported
    obtain ⟨⟨holder, presentHolder, within⟩, -⟩ := firstLine_eq_some_iff.mp reported
    have passesHolder : occursAny tokens holder = true :=
      occursAny_iff.mpr ⟨token, member, occurs_iff.mp within⟩
    apply Nat.succ_le_succ
    apply Nat.le_of_not_lt
    intro less
    rw [first other holder less presentHolder] at passesHolder
    exact Bool.false_ne_true passesHolder

/-- If one of the tokens without a line feed occurs, the least line of them all is reported. -/
theorem exists_detect_anyOf (member : token ∈ tokens) (unbroken : '\n' ∉ token.toList)
    (within : token.toList <:+: text) :
    ∃ line, (Detector.anyOf tokens).detect text = [line] ∧
      IsLeast (firstNumbers tokens text) line.number := by
  have whole : occursAny tokens text = true := occursAny_iff.mpr ⟨token, member, within⟩
  cases found : firstLine (occursAny tokens) text with
  | none =>
      obtain ⟨line, inside, within⟩ := (Text.infix_iff_exists_line unbroken).mp within
      have missed := firstLine_eq_none_iff.mp found line inside
      rw [occursAny_iff.mpr ⟨token, member, within⟩] at missed
      cases missed
  | some line =>
      refine ⟨line, ?_, isLeast_firstNumbers found⟩
      rw [detect, onceIfAny, if_pos whole, found, Option.getD_some]

/-- If only tokens with a line feed occur, the first line is reported. -/
theorem detect_anyOf_of_broken (occurring : ∃ token ∈ tokens, token.toList <:+: text)
    (broken : ∀ token ∈ tokens, token.toList <:+: text → '\n' ∈ token.toList) :
    (Detector.anyOf tokens).detect text = [LineNumber.first] := by
  have none : firstLine (occursAny tokens) text = none := by
    rw [firstLine_eq_none_iff]
    intro line inside
    rw [Bool.eq_false_iff]
    intro passes
    obtain ⟨token, member, within⟩ := occursAny_iff.mp passes
    have feed := broken token member (within.trans (Text.infix_of_mem_lines inside))
    exact Text.not_mem_of_mem_lines inside (within.subset feed)
  rw [detect, onceIfAny, if_pos (occursAny_iff.mpr occurring), none, Option.getD_none]

/-- **The detectors that report once agree with the sweep.** A token without a line feed is reported on the
first line that a sweep reports, and not at all if there is none. A token with one is on no line of a
sweep; if the text holds it, the first line is reported. Of several tokens that do not all hold a line feed
the least line is reported of those that they would be reported on one by one; the first line, if only
tokens with a line feed occur. Neither the order of the tokens counts nor how often each is named. -/
theorem detect_once_agrees (text : List Char) :
    (∀ token : String, '\n' ∉ token.toList →
      (Detector.substring token).detect text = ((Detector.sweep token).detect text).take 1) ∧
    (∀ token : String, '\n' ∈ token.toList →
      (Detector.sweep token).detect text = [] ∧
        (token.toList <:+: text → (Detector.substring token).detect text = [LineNumber.first]) ∧
        (¬ token.toList <:+: text → (Detector.substring token).detect text = [])) ∧
    ∀ tokens : List String,
      ((Detector.anyOf tokens).detect text = [] ↔ ∀ token ∈ tokens, ¬ token.toList <:+: text) ∧
      ((∃ token ∈ tokens, '\n' ∉ token.toList ∧ token.toList <:+: text) →
        ∃ line, (Detector.anyOf tokens).detect text = [line] ∧
          IsLeast (firstNumbers tokens text) line.number) ∧
      ((∃ token ∈ tokens, token.toList <:+: text) →
        (∀ token ∈ tokens, token.toList <:+: text → '\n' ∈ token.toList) →
          (Detector.anyOf tokens).detect text = [LineNumber.first]) ∧
      ∀ others : List String, (∀ token, token ∈ tokens ↔ token ∈ others) →
        (Detector.anyOf tokens).detect text = (Detector.anyOf others).detect text := by
  refine ⟨?_, ?_, fun tokens => ⟨detect_anyOf_eq_nil_iff, ?_, detect_anyOf_of_broken, ?_⟩⟩
  · intro token unbroken
    rw [detect_substring unbroken]
    exact (take_one_everyLine (occurs token.toList) text).symm
  · intro token broken
    refine ⟨everyLine_eq_nil (not_occurs_of_broken broken), ?_⟩
    rw [detect_substring_of_broken broken, ← occurs_iff]
    exact ⟨fun within => if_pos within, fun absent => if_neg absent⟩
  · rintro ⟨token, member, unbroken, within⟩
    exact exists_detect_anyOf member unbroken within
  · intro others same
    exact detect_anyOf_congr same text

/-- A token over two lines beside one on the third: the second decides, in either order, and the first
alone is reported on the first line. -/
theorem detect_once_agrees_broken_token :
    let text := "a\nb\nc c".toList
    (Detector.substring "c").detect text = ((Detector.sweep "c").detect text).take 1 ∧
      (Detector.sweep "a\nb").detect text = [] ∧
      (Detector.substring "a\nb").detect text = [LineNumber.first] ∧
      (Detector.anyOf ["a\nb", "c"]).detect text = [⟨2⟩] ∧
      IsLeast (firstNumbers ["a\nb", "c"] text) 3 ∧
      (Detector.anyOf ["a\nb"]).detect text = [LineNumber.first] ∧
      (Detector.anyOf ["c", "a\nb", "c"]).detect text = [⟨2⟩] := by
  intro text
  have same (token : String) : token ∈ ["a\nb", "c"] ↔ token ∈ ["c", "a\nb", "c"] := by
    simp only [List.mem_cons, List.not_mem_nil, or_false]
    tauto
  obtain ⟨unbroken, broken, several⟩ := detect_once_agrees text
  have held : "a\nb".toList <:+: text := ⟨[], "\nc c".toList, rfl⟩
  obtain ⟨swept, once, -⟩ := broken "a\nb" (by decide)
  obtain ⟨-, least, -, order⟩ := several ["a\nb", "c"]
  obtain ⟨line, reported, isLeast⟩ := least
    ⟨"c", by decide, by decide, "a\nb\n".toList, " c".toList, rfl⟩
  have third : line = ⟨2⟩ := by
    have computed : (Detector.anyOf ["a\nb", "c"]).detect text = [⟨2⟩] := by decide
    rw [reported, List.cons.injEq] at computed
    exact computed.1
  subst third
  refine ⟨unbroken "c" (by decide), swept, once held, reported, isLeast, ?_, ?_⟩
  · refine (several ["a\nb"]).2.2.1 ⟨"a\nb", List.mem_singleton_self _, held⟩ ?_
    intro token member _
    rw [List.mem_singleton.mp member]
    decide
  · rw [← order ["c", "a\nb", "c"] same, reported]

end Detector

end SourceAudit
