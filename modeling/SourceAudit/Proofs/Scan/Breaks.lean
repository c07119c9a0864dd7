import SourceAudit.Proofs.Detection
import SourceAudit.Proofs.Text.Breaks
import Mathlib.Data.List.Sort

/-!
# What unified line breaks change

A carriage return of its own ends a line only where the breaks of a text are unified. What a detector
reports stays the same exactly when it overlooks every such carriage return
(`Detector.detect_unifyBreaks_eq_iff`): a sweep overlooks it when no line after it is hit, any other
detector when it has found its line before it, if it finds one at all.
-/

namespace SourceAudit.Detector

open Text (lines unifyBreaks Unbroken Ending)

/-- Some line of a text is hit. -/
def HitsText (detector : Detector) (text : List Char) : Prop :=
  ∃ line, detector.HitsLine text line

/-- It makes no difference to a detector whether the carriage return between two parts of a text ends
a line. -/
def Overlooks (detector : Detector) (before after : List Char) : Prop :=
  if detector.isSweep then ¬ detector.HitsText after
  else detector.HitsText (before ++ '\r' :: after) → detector.HitsText before

variable {detector : Detector} {line ending rest text : List Char}

/-- An assignment does not reach to a carriage return at the end of a line. -/
theorem infix_of_assignment {part : List Char} (assigns : Password.Assignment part)
    (within : part <:+: line ++ ['\r']) : part <:+: line := by
  obtain ⟨before, closing, rfl, quote⟩ := assigns.exists_closing
  rcases List.infix_concat_iff.mp within with ending | inside
  · obtain ⟨front, whole⟩ := ending
    rw [← List.append_assoc] at whole
    obtain ⟨-, last⟩ := List.append_inj' whole rfl
    rw [List.cons.inj last |>.1] at quote
    exact absurd quote (by decide)
  · exact inside

theorem hits_append_ending_iff (free : detector.FreeOf '\r') (ends : Ending ending) :
    detector.Hits (line ++ ending) ↔ detector.Hits line := by
  cases detector with
  | substring token => exact Text.infix_append_ending_iff free ends
  | sweep token => exact Text.infix_append_ending_iff free ends
  | anyOf tokens =>
      refine exists_congr fun token => and_congr_right fun member => ?_
      exact Text.infix_append_ending_iff (free token member) ends
  | hardcodedPassword =>
      refine exists_congr fun part => and_congr_right fun assigns => ?_
      rcases ends with rfl | rfl
      · rw [List.append_nil]
      · refine ⟨infix_of_assignment assigns, fun within => ?_⟩
        exact within.trans (List.prefix_append line _).isInfix

section Positions

variable {first : List Char}

theorem hitsLine_zero_iff {others : List (List Char)} (split : lines text = first :: others) :
    detector.HitsLine text ⟨0⟩ ↔ detector.Hits first := by
  simp only [HitsLine, split, List.getElem?_cons_zero, Option.some.injEq, exists_eq_left']

theorem hitsLine_succ_iff (split : lines text = first :: lines rest) (before : Nat) :
    detector.HitsLine text ⟨before + 1⟩ ↔ detector.HitsLine rest ⟨before⟩ := by
  simp only [HitsLine, split, List.getElem?_cons_succ]

theorem hitsText_iff (split : lines text = first :: lines rest) :
    detector.HitsText text ↔ detector.Hits first ∨ detector.HitsText rest := by
  constructor
  · rintro ⟨⟨before⟩, hits⟩
    cases before with
    | zero => exact .inl ((hitsLine_zero_iff split).mp hits)
    | succ before => exact .inr ⟨⟨before⟩, (hitsLine_succ_iff split before).mp hits⟩
  · rintro (hits | ⟨⟨before⟩, hits⟩)
    · exact ⟨⟨0⟩, (hitsLine_zero_iff split).mpr hits⟩
    · exact ⟨⟨before + 1⟩, (hitsLine_succ_iff split before).mpr hits⟩

/-- The first line that passes a test is the first of all lines, or the one among the others. -/
theorem firstLine_eq (split : lines text = first :: lines rest) :
    firstLine detector.test text =
      if detector.test first then some .first
      else (firstLine detector.test rest).map (·.shift 1) := by
  rw [firstLine, split, List.findIdx?_cons]
  split
  · rfl
  · simp only [firstLine, Option.map_map, Function.comp_def, LineNumber.shift, Nat.add_comm]

end Positions

/-- A line that is hit in the unified text is a part of one that is hit no further down. -/
theorem exists_hitsLine_of_unified {index : Nat}
    (hits : detector.HitsLine (unifyBreaks text) ⟨index⟩) :
    ∃ above ≤ index, detector.HitsLine text ⟨above⟩ := by
  obtain ⟨content, present, hits⟩ := hits
  obtain ⟨above, inside, whole, found, within⟩ := Text.exists_line_of_unified present
  exact ⟨above, inside, whole, found, hits.mono within⟩

theorem hitsText_of_unified (hits : detector.HitsText (unifyBreaks text)) :
    detector.HitsText text := by
  obtain ⟨⟨index⟩, hits⟩ := hits
  obtain ⟨above, -, found⟩ := exists_hitsLine_of_unified hits
  exact ⟨⟨above⟩, found⟩

/-- Where every line that is hit has another one below it, no line is hit. -/
theorem not_hitsText_of_climbs
    (climbs : ∀ index, detector.HitsLine text ⟨index⟩ →
      ∃ lower > index, detector.HitsLine text ⟨lower⟩) : ¬ detector.HitsText text := by
  rintro ⟨⟨index⟩, hits⟩
  have further (bound : Nat) : ∃ lower ≥ bound, detector.HitsLine text ⟨lower⟩ := by
    induction bound with
    | zero => exact ⟨index, Nat.zero_le index, hits⟩
    | succ bound ih =>
        obtain ⟨lower, inside, found⟩ := ih
        obtain ⟨next, below, found⟩ := climbs lower found
        exact ⟨next, Nat.succ_le_of_lt (Nat.lt_of_le_of_lt inside below), found⟩
  obtain ⟨lower, outside, content, present, -⟩ := further (lines text).length
  rw [List.getElem?_eq_none outside] at present
  cases present

/-! ### Sweeps -/

section Sweeps

variable {token : String}

theorem hitsText_sweep_iff (feed : '\n' ∉ token.toList) :
    (sweep token).HitsText text ↔ token.toList <:+: text := by
  rw [Text.infix_iff_exists_line feed]
  constructor
  · rintro ⟨line, content, present, hits⟩
    exact ⟨content, List.mem_of_getElem? present, hits⟩
  · rintro ⟨content, member, hits⟩
    obtain ⟨before, present⟩ := List.mem_iff_getElem?.mp member
    exact ⟨⟨before⟩, content, present, hits⟩

/-- A sweep finds its token on the same lines when it finds none after a lone carriage return. -/
theorem sweep_unifyBreaks_iff (feed : '\n' ∉ token.toList) (carriage : '\r' ∉ token.toList)
    (text : List Char) :
    (∀ line, (sweep token).HitsLine (unifyBreaks text) line ↔ (sweep token).HitsLine text line) ↔
      Text.AtLoneReturns (fun _ after => ¬ (sweep token).HitsText after) text := by
  induction text using Text.breaks_induction with
  | single line unbroken =>
      rw [Text.unifyBreaks_eq_self unbroken.2]
      exact ⟨fun _ => Text.atLoneReturns_of_unbroken unbroken, fun _ _ => Iff.rfl⟩
  | ended line ending rest unbroken ends ih =>
      have unified := Text.lines_unifyBreaks_ended unbroken ends rest
      have split := Text.lines_ended unbroken ends rest
      rw [Text.atLoneReturns_ended_iff unbroken ends, ← ih]
      constructor
      · rintro same ⟨before⟩
        have below := same ⟨before + 1⟩
        rwa [hitsLine_succ_iff unified, hitsLine_succ_iff split] at below
      · rintro same ⟨before⟩
        cases before with
        | zero =>
            have kept : (sweep token).Hits (line ++ ending) ↔ (sweep token).Hits line :=
              hits_append_ending_iff carriage ends
            rw [hitsLine_zero_iff unified, hitsLine_zero_iff split, kept]
        | succ before =>
            rw [hitsLine_succ_iff unified, hitsLine_succ_iff split]
            exact same ⟨before⟩
  | lone line rest unbroken lone =>
      obtain ⟨first, others, following⟩ := Text.exists_lines_cons rest
      have unified := Text.lines_unifyBreaks_lone unbroken lone
      have split := Text.lines_lone unbroken following
      have below (before : Nat) : (sweep token).HitsLine (line ++ '\r' :: rest) ⟨before + 1⟩ ↔
          (sweep token).HitsLine rest ⟨before + 1⟩ := by
        simp only [HitsLine, split, following, List.getElem?_cons_succ]
      rw [Text.atLoneReturns_lone_iff unbroken lone]
      constructor
      · intro same
        -- A line of the rest that is hit moves down by one, yet is to be found where it was.
        have none : ¬ (sweep token).HitsText rest := by
          apply not_hitsText_of_climbs
          rintro index ⟨content, present, hits⟩
          obtain ⟨lower, inside, part, found, within⟩ :=
            Text.exists_unified_of_line carriage present hits
          have moved : (sweep token).HitsLine (unifyBreaks rest) ⟨lower⟩ := ⟨part, found, within⟩
          rw [← hitsLine_succ_iff unified, same, below] at moved
          exact ⟨lower + 1, Nat.lt_succ_of_le inside, moved⟩
        refine ⟨none, fun before after split _ hits => none ?_⟩
        rw [hitsText_sweep_iff feed] at hits ⊢
        rw [split]
        exact hits.trans (Text.suffix_after_return before after).isInfix
      · rintro ⟨none, -⟩ ⟨before⟩
        cases before with
        | zero =>
            have apart : ¬ token.toList <:+: first := fun hits =>
              none ⟨⟨0⟩, (hitsLine_zero_iff following).mpr hits⟩
            rw [hitsLine_zero_iff unified, hitsLine_zero_iff split]
            exact ((Text.infix_append_separator_iff carriage).trans (or_iff_left apart)).symm
        | succ before =>
            rw [hitsLine_succ_iff unified, below]
            exact iff_of_false (fun hits => none (hitsText_of_unified ⟨_, hits⟩))
              fun hits => none ⟨_, hits⟩

end Sweeps

/-! ### The first line -/

theorem firstLine_eq_none_iff_hitsText :
    firstLine detector.test text = none ↔ ¬ detector.HitsText text := by
  rw [firstLine_eq_none_iff]
  constructor
  · rintro none ⟨line, hits⟩
    obtain ⟨content, present, passes⟩ := hitsLine_iff.mp hits
    rw [none content (List.mem_of_getElem? present)] at passes
    exact Bool.false_ne_true passes
  · intro apart content member
    obtain ⟨before, present⟩ := List.mem_iff_getElem?.mp member
    exact Bool.eq_false_iff.mpr fun passes =>
      apart ⟨⟨before⟩, hitsLine_iff.mpr ⟨content, present, passes⟩⟩

instance (detector : Detector) (text : List Char) : Decidable (detector.HitsText text) :=
  decidable_of_iff (firstLine detector.test text ≠ none)
    ((not_congr firstLine_eq_none_iff_hitsText).trans not_not)

instance (detector : Detector) (before after : List Char) :
    Decidable (detector.Overlooks before after) :=
  if sweeps : detector.isSweep then
    decidable_of_iff (¬ detector.HitsText after) (by rw [Overlooks, if_pos sweeps])
  else
    decidable_of_iff (detector.HitsText (before ++ '\r' :: after) → detector.HitsText before)
      (by rw [Overlooks, if_neg sweeps])

/-- What is hit before a lone carriage return stands on the first line. -/
theorem firstLine_lone (unbroken : Unbroken line) (hits : detector.Hits line) (rest : List Char) :
    firstLine detector.test (line ++ '\r' :: rest) = some .first := by
  obtain ⟨first, others, following⟩ := Text.exists_lines_cons rest
  rw [firstLine_test_eq_some_iff]
  refine ⟨(hitsLine_zero_iff (Text.lines_lone unbroken following)).mpr ?_, fun earlier less => ?_⟩
  · exact hits.mono (List.prefix_append line _).isInfix
  · exact absurd less (Nat.not_lt_zero earlier.before)

theorem hitsText_unbroken_iff (unbroken : Unbroken line) :
    detector.HitsText line ↔ detector.Hits line := by
  have whole := Text.lines_eq_singleton unbroken.1
  constructor
  · rintro ⟨line, content, present, hits⟩
    rw [whole] at present
    rwa [List.mem_singleton.mp (List.mem_of_getElem? present)] at hits
  · intro hits
    exact ⟨⟨0⟩, (hitsLine_zero_iff whole).mpr hits⟩

/-- A line after a lone carriage return is hit together with the text on the same line. -/
theorem hitsLine_lone (unbroken : Unbroken line) {index : Nat}
    (hits : detector.HitsLine rest ⟨index⟩) :
    detector.HitsLine (line ++ '\r' :: rest) ⟨index⟩ := by
  obtain ⟨content, present, hits⟩ := hits
  obtain ⟨whole, found, within⟩ := Text.exists_line_of_rest unbroken present
  exact ⟨whole, found, hits.mono within⟩

/-- The first line that is hit stays where it is when it is found before each lone carriage return,
if any line is hit at all. -/
theorem firstLine_unifyBreaks_eq_iff (carriage : detector.FreeOf '\r') (text : List Char) :
    firstLine detector.test (unifyBreaks text) = firstLine detector.test text ↔
      Text.AtLoneReturns
        (fun before after => detector.HitsText (before ++ '\r' :: after) → detector.HitsText before)
        text := by
  induction text using Text.breaks_induction with
  | single line unbroken =>
      rw [Text.unifyBreaks_eq_self unbroken.2]
      exact ⟨fun _ => Text.atLoneReturns_of_unbroken unbroken, fun _ => rfl⟩
  | ended line ending rest unbroken ends ih =>
      have unified := Text.lines_unifyBreaks_ended unbroken ends rest
      have kept : detector.Hits (line ++ ending) ↔ detector.Hits line :=
        hits_append_ending_iff carriage ends
      have tested : detector.test (line ++ ending) = detector.test line := by
        rw [Bool.eq_iff_iff, test_iff_hits, test_iff_hits, kept]
      have found (rest : List Char) : detector.HitsText (line ++ (ending ++ '\n' :: rest)) ↔
          detector.Hits line ∨ detector.HitsText rest := by
        rw [hitsText_iff (Text.lines_ended unbroken ends rest), kept]
      rw [Text.atLoneReturns_ended_iff unbroken ends, firstLine_eq unified,
        firstLine_eq (Text.lines_ended unbroken ends rest), tested]
      by_cases hits : detector.Hits line
      · rw [if_pos (test_iff_hits.mpr hits), if_pos (test_iff_hits.mpr hits)]
        exact iff_of_true rfl fun before after _ _ _ => (found before).mpr (.inl hits)
      · have below : Function.Injective fun line : LineNumber => line.shift 1 := by
          rintro ⟨first⟩ ⟨second⟩ same
          simpa [LineNumber.shift] using same
        have fails : ¬ detector.test line = true := fun passes => hits (test_iff_hits.mp passes)
        rw [if_neg fails, if_neg fails, (Option.map_injective below).eq_iff, ih]
        simp only [Text.AtLoneReturns, List.append_assoc, List.cons_append, found, hits, false_or]
  | lone line rest unbroken lone =>
      have unified := Text.lines_unifyBreaks_lone unbroken lone
      rw [Text.atLoneReturns_lone_iff unbroken lone, hitsText_unbroken_iff unbroken]
      by_cases hits : detector.Hits line
      · rw [firstLine_eq unified, if_pos (test_iff_hits.mpr hits), firstLine_lone unbroken hits]
        refine iff_of_true rfl ⟨fun _ => hits, fun before after _ _ _ => ?_⟩
        exact ⟨.first, (firstLine_test_eq_some_iff.mp (firstLine_lone unbroken hits before)).1⟩
      · constructor
        · intro same
          have none : ¬ detector.HitsText (line ++ '\r' :: rest) := by
            intro found
            rw [← not_not (a := detector.HitsText _), ← firstLine_eq_none_iff_hitsText] at found
            obtain ⟨⟨index⟩, top⟩ := Option.ne_none_iff_exists'.mp found
            obtain ⟨-, earliest⟩ := firstLine_test_eq_some_iff.mp top
            obtain ⟨moved, -⟩ := firstLine_test_eq_some_iff.mp (same.trans top)
            cases index with
            | zero => exact hits ((hitsLine_zero_iff unified).mp moved)
            | succ index =>
                -- The rest is hit on this line or above, and the whole text with it.
                rw [hitsLine_succ_iff unified] at moved
                obtain ⟨above, inside, stays⟩ := exists_hitsLine_of_unified moved
                exact earliest ⟨above⟩ (Nat.lt_succ_of_le inside) (hitsLine_lone unbroken stays)
          refine ⟨fun found => (none found).elim, fun before after split _ found => (none ?_).elim⟩
          rwa [List.append_assoc, List.cons_append, ← split] at found
        · rintro ⟨onlyBefore, -⟩
          have none : ¬ detector.HitsText (line ++ '\r' :: rest) :=
            fun found => hits (onlyBefore found)
          rw [firstLine_eq_none_iff_hitsText.mpr none, firstLine_eq_none_iff_hitsText]
          exact fun found => none (hitsText_of_unified found)

/-- **Unifying the line breaks of a text changes no report exactly when the detector overlooks each
lone carriage return.** -/
theorem detect_unifyBreaks_eq_iff (feed : detector.FreeOf '\n') (carriage : detector.FreeOf '\r')
    (text : List Char) :
    detector.detect (unifyBreaks text) = detector.detect text ↔
      Text.AtLoneReturns detector.Overlooks text := by
  cases sweeps : detector.isSweep with
  | true =>
      obtain ⟨token, rfl⟩ : ∃ token, detector = sweep token := by
        cases detector with
        | sweep token => exact ⟨token, rfl⟩
        | _ => cases sweeps
      refine Iff.trans ?_ (sweep_unifyBreaks_iff feed carriage text)
      constructor
      · intro same line
        rw [hitsLine_iff, hitsLine_iff, ← mem_everyLine, ← mem_everyLine]
        exact Iff.of_eq (congrArg (line ∈ ·) same)
      · intro same
        have irreflexive : Std.Irrefl fun first second : LineNumber => first.before < second.before :=
          ⟨fun line => Nat.lt_irrefl line.before⟩
        refine (pairwise_detect feed _).eq_of_mem_iff (pairwise_detect feed _) fun line => ?_
        rw [detect, detect, mem_everyLine, mem_everyLine]
        exact hitsLine_iff.symm.trans ((same line).trans hitsLine_iff)
  | false =>
      have overlooks : detector.Overlooks = fun before after =>
          detector.HitsText (before ++ '\r' :: after) → detector.HitsText before := by
        funext before after
        simp only [Overlooks, sweeps, Bool.false_eq_true, ↓reduceIte]
      rw [overlooks, ← firstLine_unifyBreaks_eq_iff carriage, detect_eq feed, detect_eq feed, sweeps]
      simp only [Bool.false_eq_true, ↓reduceIte]
      refine ⟨fun same => ?_, congrArg Option.toList⟩
      have heads := congrArg List.head? same
      rwa [Option.head?_toList, Option.head?_toList] at heads

end SourceAudit.Detector
