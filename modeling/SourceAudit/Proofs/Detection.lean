import SourceAudit.Proofs.Password.Grammar
import SourceAudit.Proofs.Text.Lines
import SourceAudit.Rule

/-!
# What detectors report

A line is hit when it holds what a detector looks for (`Detector.Hits`). A sweep reports every line
that is hit, the other detectors the first one (`Detector.Reports`). Two of them ask the whole text
first; as long as no token holds a line feed this makes no difference, so that every detector reports
exactly the lines it should (`Detector.mem_detect_iff`), in ascending order
(`Detector.pairwise_detect`), and never falls back to a line that is not hit
(`Detector.not_fallsBack`).
-/

namespace SourceAudit

theorem pairwise_positions {α : Type} (items : List α) :
    items.zipIdx.Pairwise fun first second => first.2 < second.2 := by
  have numbers : (items.zipIdx.map Prod.snd).Pairwise fun first second => first < second := by
    rw [List.zipIdx_map_snd]
    exact List.pairwise_lt_range'
  exact List.pairwise_map.mp numbers

namespace Detector

open Text (lines occurs occurs_iff)

/-- A line holds what a detector looks for: the token, one of the tokens, or a part that assigns a
password. This is said of single lines, without an order in which anything is searched. -/
def Hits (detector : Detector) (line : List Char) : Prop :=
  match detector with
  | .substring token => token.toList <:+: line
  | .sweep token => token.toList <:+: line
  | .anyOf tokens => ∃ token ∈ tokens, token.toList <:+: line
  | .hardcodedPassword => ∃ part, Password.Assignment part ∧ part <:+: line

/-- The line of a text with a given number is hit. A number beyond the last line is of none. -/
def HitsLine (detector : Detector) (text : List Char) (line : LineNumber) : Prop :=
  ∃ content, (lines text)[line.before]? = some content ∧ detector.Hits content

/-- Whether a detector reports every line that is hit, and not the first one only. -/
def isSweep : Detector → Bool
  | .sweep _ => true
  | _ => false

/-- The line is one of those that a detector is to report: it is hit, and it is the first such line
unless the detector is a sweep. -/
def Reports (detector : Detector) (text : List Char) (line : LineNumber) : Prop :=
  detector.HitsLine text line ∧
    (detector.isSweep = false → ∀ earlier : LineNumber, earlier.before < line.before →
      ¬ detector.HitsLine text earlier)

/-- No token of a detector holds a character. The search for passwords has no tokens; that it stays
within a line is shown elsewhere. -/
def FreeOf (c : Char) : Detector → Prop
  | .substring token => c ∉ token.toList
  | .sweep token => c ∉ token.toList
  | .anyOf tokens => ∀ token ∈ tokens, c ∉ token.toList
  | .hardcodedPassword => True

instance (c : Char) (detector : Detector) : Decidable (detector.FreeOf c) :=
  match detector with
  | .substring token => inferInstanceAs (Decidable (c ∉ token.toList))
  | .sweep token => inferInstanceAs (Decidable (c ∉ token.toList))
  | .anyOf tokens => inferInstanceAs (Decidable (∀ token ∈ tokens, c ∉ token.toList))
  | .hardcodedPassword => inferInstanceAs (Decidable True)

/-- A detector that asks the whole text first is satisfied by it but by none of its lines, so that
the first line has to stand for the place. -/
def FallsBack (detector : Detector) (text : List Char) : Prop :=
  match detector with
  | .substring token =>
    occurs token.toList text = true ∧ firstLine (occurs token.toList) text = none
  | .anyOf tokens => occursAny tokens text = true ∧ firstLine (occursAny tokens) text = none
  | _ => False

/-- The test that a detector puts to each line. -/
def test : Detector → List Char → Bool
  | .substring token => occurs token.toList
  | .sweep token => occurs token.toList
  | .anyOf tokens => occursAny tokens
  | .hardcodedPassword => assignsPassword

theorem occursAny_iff {tokens : List String} {text : List Char} :
    occursAny tokens text = true ↔ ∃ token ∈ tokens, token.toList <:+: text := by
  simp only [occursAny, List.any_eq_true, occurs_iff]

/-- The test of a detector decides whether a line is hit. -/
theorem test_iff_hits {detector : Detector} {line : List Char} :
    detector.test line = true ↔ detector.Hits line := by
  cases detector with
  | substring token => exact occurs_iff
  | sweep token => exact occurs_iff
  | anyOf tokens => exact occursAny_iff
  | hardcodedPassword => exact Password.search_isSome_iff

/-- A line is hit when a part of it is. -/
theorem Hits.mono {detector : Detector} {part whole : List Char} (within : part <:+: whole)
    (hits : detector.Hits part) : detector.Hits whole := by
  cases detector with
  | substring token => exact List.IsInfix.trans hits within
  | sweep token => exact List.IsInfix.trans hits within
  | anyOf tokens =>
      obtain ⟨token, member, inside⟩ := hits
      exact ⟨token, member, inside.trans within⟩
  | hardcodedPassword =>
      obtain ⟨assignment, assigns, inside⟩ := hits
      exact ⟨assignment, assigns, inside.trans within⟩

/-- The first line that passes a test passes it, and no line before it does. -/
theorem firstLine_eq_some_iff {test : List Char → Bool} {text : List Char} {line : LineNumber} :
    firstLine test text = some line ↔
      (∃ content, (lines text)[line.before]? = some content ∧ test content = true) ∧
        ∀ (earlier : LineNumber) (content : List Char), earlier.before < line.before →
          (lines text)[earlier.before]? = some content → test content = false := by
  obtain ⟨before⟩ := line
  have found : firstLine test text = some ⟨before⟩ ↔ (lines text).findIdx? test = some before := by
    simp only [firstLine, Option.map_eq_some_iff, LineNumber.mk.injEq, exists_eq_right]
  rw [found, List.findIdx?_eq_some_iff_getElem]
  constructor
  · rintro ⟨inside, passes, first⟩
    refine ⟨⟨(lines text)[before], List.getElem?_eq_getElem inside, passes⟩, ?_⟩
    intro earlier content less present
    obtain ⟨within, rfl⟩ := List.getElem?_eq_some_iff.mp present
    exact Bool.eq_false_iff.mpr (first earlier.before less)
  · rintro ⟨⟨content, present, passes⟩, first⟩
    obtain ⟨inside, rfl⟩ := List.getElem?_eq_some_iff.mp present
    refine ⟨inside, passes, ?_⟩
    intro earlier less
    have within : earlier < (lines text).length := Nat.lt_trans less inside
    exact Bool.eq_false_iff.mp
      (first ⟨earlier⟩ _ less (List.getElem?_eq_getElem within))

theorem firstLine_eq_none_iff {test : List Char → Bool} {text : List Char} :
    firstLine test text = none ↔ ∀ line ∈ lines text, test line = false := by
  simp only [firstLine, Option.map_eq_none_iff, List.findIdx?_eq_none_iff]

theorem mem_everyLine {test : List Char → Bool} {text : List Char} {line : LineNumber} :
    line ∈ everyLine test text ↔
      ∃ content, (lines text)[line.before]? = some content ∧ test content = true := by
  obtain ⟨before⟩ := line
  simp only [everyLine, List.mem_filterMap]
  constructor
  · rintro ⟨⟨content, index⟩, member, kept⟩
    simp only [Option.ite_none_right_eq_some, Option.some.injEq, LineNumber.mk.injEq] at kept
    obtain ⟨passes, rfl⟩ := kept
    exact ⟨content, List.mem_zipIdx_iff_getElem?.mp member, passes⟩
  · rintro ⟨content, present, passes⟩
    refine ⟨(content, before), List.mem_zipIdx_iff_getElem?.mpr present, ?_⟩
    simp only [passes, ↓reduceIte]

theorem pairwise_everyLine (test : List Char → Bool) (text : List Char) :
    (everyLine test text).Pairwise fun first second => first.before < second.before := by
  rw [everyLine, List.pairwise_filterMap]
  apply (pairwise_positions (lines text)).imp
  rintro ⟨_, first⟩ ⟨_, second⟩ less _ keptFirst _ keptSecond
  simp only [Option.ite_none_right_eq_some, Option.some.injEq] at keptFirst keptSecond
  rw [← keptFirst.2, ← keptSecond.2]
  exact less

/-- Asking the whole text first makes no difference where it passes the test just when one of its
lines does. -/
theorem onceIfAny_eq {test : List Char → Bool} {text : List Char}
    (agrees : test text = true ↔ ∃ line ∈ lines text, test line = true) :
    onceIfAny test text = (firstLine test text).toList := by
  rw [onceIfAny]
  split
  next whole =>
    cases found : firstLine test text with
    | none =>
        obtain ⟨line, member, passes⟩ := agrees.mp whole
        rw [firstLine_eq_none_iff.mp found line member] at passes
        exact (Bool.false_ne_true passes).elim
    | some line => rfl
  next apart =>
    have none : firstLine test text = none := by
      rw [firstLine_eq_none_iff]
      intro line member
      exact Bool.eq_false_iff.mpr fun passes => apart (agrees.mpr ⟨line, member, passes⟩)
    rw [none]
    rfl

/-- A text passes a detector's test when one of its lines does. -/
theorem test_iff_exists_line {detector : Detector} {text : List Char}
    (unbroken : detector.FreeOf '\n') (tokens : detector ≠ .hardcodedPassword) :
    detector.test text = true ↔ ∃ line ∈ lines text, detector.test line = true := by
  simp only [test_iff_hits]
  cases detector with
  | substring token => exact Text.infix_iff_exists_line unbroken
  | sweep token => exact Text.infix_iff_exists_line unbroken
  | anyOf tokens =>
      constructor
      · rintro ⟨token, member, within⟩
        obtain ⟨line, inside, within⟩ :=
          (Text.infix_iff_exists_line (unbroken token member)).mp within
        exact ⟨line, inside, token, member, within⟩
      · rintro ⟨line, inside, token, member, within⟩
        exact ⟨token, member,
          (Text.infix_iff_exists_line (unbroken token member)).mpr ⟨line, inside, within⟩⟩
  | hardcodedPassword => exact (tokens rfl).elim

/-- What a detector reports, by its test alone. -/
theorem detect_eq {detector : Detector} (unbroken : detector.FreeOf '\n') (text : List Char) :
    detector.detect text =
      if detector.isSweep then everyLine detector.test text
      else (firstLine detector.test text).toList := by
  cases detector with
  | substring token => exact onceIfAny_eq (test_iff_exists_line unbroken (by simp))
  | sweep token => rfl
  | anyOf tokens => exact onceIfAny_eq (test_iff_exists_line unbroken (by simp))
  | hardcodedPassword => rfl

theorem hitsLine_iff {detector : Detector} {text : List Char} {line : LineNumber} :
    detector.HitsLine text line ↔
      ∃ content, (lines text)[line.before]? = some content ∧ detector.test content = true := by
  simp only [HitsLine, test_iff_hits]

/-- The first line that passes a detector's test is hit, and no line before it is. -/
theorem firstLine_test_eq_some_iff {detector : Detector} {text : List Char} {line : LineNumber} :
    firstLine detector.test text = some line ↔
      detector.HitsLine text line ∧
        ∀ earlier : LineNumber, earlier.before < line.before → ¬ detector.HitsLine text earlier := by
  rw [firstLine_eq_some_iff, ← hitsLine_iff]
  refine and_congr_right fun _ => forall_congr' fun earlier => ?_
  simp only [hitsLine_iff, not_exists, not_and, Bool.not_eq_true]
  exact ⟨fun first less content present => first content less present,
    fun first content less present => first less content present⟩

/-- **A detector reports exactly the lines that it should.** -/
theorem mem_detect_iff {detector : Detector} {text : List Char} {line : LineNumber}
    (unbroken : detector.FreeOf '\n') :
    line ∈ detector.detect text ↔ detector.Reports text line := by
  rw [detect_eq unbroken, Reports]
  cases sweeps : detector.isSweep with
  | true =>
      simp only [↓reduceIte, Bool.true_eq_false, false_implies, and_true]
      rw [hitsLine_iff]
      exact mem_everyLine
  | false =>
      simp only [Bool.false_eq_true, ↓reduceIte, Option.mem_toList, forall_const]
      exact firstLine_test_eq_some_iff

/-- Lines are reported in ascending order. -/
theorem pairwise_detect {detector : Detector} (unbroken : detector.FreeOf '\n') (text : List Char) :
    (detector.detect text).Pairwise fun first second => first.before < second.before := by
  rw [detect_eq unbroken]
  split
  · exact pairwise_everyLine detector.test text
  · cases firstLine detector.test text with
    | none => exact .nil
    | some line => exact List.pairwise_singleton _ line

/-- A detector without line feeds in its tokens never falls back to a line that is not hit. -/
theorem not_fallsBack {detector : Detector} (unbroken : detector.FreeOf '\n') (text : List Char) :
    ¬ detector.FallsBack text := by
  have apart (tokens : detector ≠ .hardcodedPassword) :
      ¬ (detector.test text = true ∧ firstLine detector.test text = none) := by
    rintro ⟨whole, none⟩
    obtain ⟨line, member, passes⟩ := (test_iff_exists_line unbroken tokens).mp whole
    rw [firstLine_eq_none_iff.mp none line member] at passes
    exact Bool.false_ne_true passes
  cases detector with
  | substring token => exact apart (by simp)
  | sweep token => exact id
  | anyOf tokens => exact apart (by simp)
  | hardcodedPassword => exact id

end Detector

end SourceAudit
