import SourceAudit.Proofs.Text.Lines
import SourceAudit.Proofs.Text.Runs

/-!
# Unified line breaks

A text is read from its start: a line without a break in it (`Unbroken`), then the end of the text, a
line feed with or without a carriage return before it, or a carriage return of its own
(`breaks_induction`). Unifying the breaks leaves the line as it is and makes one line feed of the break,
so it ends a line where a lone carriage return stood within one. Each line of the unified text is a
part of a line of the text that is no further down (`exists_line_of_unified`).
-/

namespace SourceAudit.Text

/-- A text without a line break of any kind. -/
def Unbroken (text : List Char) : Prop :=
  '\n' ∉ text ∧ '\r' ∉ text

/-- What may stand between a line and the line feed that ends it. -/
def Ending (text : List Char) : Prop :=
  text = [] ∨ text = ['\r']

variable {line ending rest : List Char}

theorem foldl_step_done (done : List Char) (afterReturn : Bool) (text : List Char) :
    (text.foldl unifyBreaks.step (done, afterReturn)).1 =
      (text.foldl unifyBreaks.step ([], afterReturn)).1 ++ done := by
  induction text generalizing done afterReturn with
  | nil => rfl
  | cons c rest ih =>
      rw [List.foldl_cons, List.foldl_cons, unifyBreaks.step, unifyBreaks.step]
      split
      · rw [ih ('\n' :: done), ih ['\n'], List.append_assoc, List.singleton_append]
      · split
        · exact ih done false
        · rw [ih (c :: done), ih [c], List.append_assoc, List.singleton_append]

/-- A carriage return that has just been read matters to a line feed only. -/
theorem foldl_step_lone (lone : rest.head? ≠ some '\n') :
    (rest.foldl unifyBreaks.step ([], true)).1 = (rest.foldl unifyBreaks.step ([], false)).1 := by
  cases rest with
  | nil => rfl
  | cons c rest =>
      have other : c ≠ '\n' := fun same => lone (congrArg some same)
      simp only [List.foldl_cons, unifyBreaks.step, other, decide_false, Bool.false_and,
        Bool.false_eq_true, ↓reduceIte]

theorem unifyBreaks_cons {c : Char} (other : c ≠ '\r') (rest : List Char) :
    unifyBreaks (c :: rest) = c :: unifyBreaks rest := by
  have first : unifyBreaks.step ([], false) c = ([c], false) := by
    simp only [unifyBreaks.step, other, Bool.and_false, Bool.false_eq_true, ↓reduceIte]
  rw [unifyBreaks, List.foldl_cons, first, foldl_step_done, List.reverse_append]
  rfl

theorem unifyBreaks_pair (rest : List Char) :
    unifyBreaks ('\r' :: '\n' :: rest) = '\n' :: unifyBreaks rest := by
  rw [unifyBreaks, List.foldl_cons, List.foldl_cons]
  have both : unifyBreaks.step (unifyBreaks.step ([], false) '\r') '\n' = (['\n'], false) := rfl
  rw [both, foldl_step_done, List.reverse_append]
  rfl

theorem unifyBreaks_lone (lone : rest.head? ≠ some '\n') :
    unifyBreaks ('\r' :: rest) = '\n' :: unifyBreaks rest := by
  rw [unifyBreaks, List.foldl_cons]
  have first : unifyBreaks.step ([], false) '\r' = (['\n'], true) := rfl
  rw [first, foldl_step_done, foldl_step_lone lone, List.reverse_append]
  rfl

/-- What comes before the first carriage return stays as it is. -/
theorem unifyBreaks_append (free : '\r' ∉ line) (rest : List Char) :
    unifyBreaks (line ++ rest) = line ++ unifyBreaks rest := by
  induction line with
  | nil => rfl
  | cons c line ih =>
      rw [List.mem_cons, not_or] at free
      rw [List.cons_append, unifyBreaks_cons (Ne.symm free.1), ih free.2, List.cons_append]

theorem unifyBreaks_eq_self (free : '\r' ∉ line) : unifyBreaks line = line := by
  have whole := unifyBreaks_append free []
  rw [List.append_nil] at whole
  exact whole.trans (List.append_nil line)

theorem unifyBreaks_ended (unbroken : Unbroken line) (ends : Ending ending) (rest : List Char) :
    unifyBreaks (line ++ (ending ++ '\n' :: rest)) = line ++ '\n' :: unifyBreaks rest := by
  rw [unifyBreaks_append unbroken.2]
  rcases ends with rfl | rfl
  · rw [List.nil_append, unifyBreaks_cons (by decide)]
  · rw [List.singleton_append, unifyBreaks_pair]

/-- **Induction over the breaks of a text**, from what follows the first break to the whole. -/
theorem breaks_induction {motive : List Char → Prop}
    (single : ∀ line, Unbroken line → motive line)
    (ended : ∀ line ending rest, Unbroken line → Ending ending → motive rest →
      motive (line ++ (ending ++ '\n' :: rest)))
    (lone : ∀ line rest, Unbroken line → rest.head? ≠ some '\n' → motive rest →
      motive (line ++ '\r' :: rest))
    (text : List Char) : motive text := by
  induction measured : text.length using Nat.strongRecOn generalizing text with
  | ind size ih =>
      let kind : Char → Bool := fun c => c != '\n' && c != '\r'
      have unbroken : Unbroken (text.takeWhile kind) := by
        constructor <;> intro member <;> have inside := List.mem_takeWhile_imp member <;> simp [kind] at inside
      cases remains : text.dropWhile kind with
      | nil =>
          have whole := List.takeWhile_append_dropWhile (p := kind) (l := text)
          rw [remains, List.append_nil] at whole
          rw [← whole]
          exact single _ unbroken
      | cons c rest =>
          obtain ⟨split, other⟩ := eq_run_append remains
          have shorter : rest.length < size := by
            rw [← measured, split, List.length_append, List.length_cons]
            omega
          rw [split]
          by_cases feed : c = '\n'
          · rw [feed]
            exact ended _ [] rest unbroken (.inl rfl) (ih _ shorter rest rfl)
          · have carriage : c = '\r' := by simpa [kind, feed] using other
            rw [carriage]
            by_cases paired : rest.head? = some '\n'
            · obtain ⟨rest, rfl⟩ := List.head?_eq_some_iff.mp paired
              rw [List.length_cons] at shorter
              exact ended _ ['\r'] rest unbroken (.inr rfl) (ih _ (by omega) rest rfl)
            · exact lone _ rest unbroken paired (ih _ shorter rest rfl)

theorem lines_ended (unbroken : Unbroken line) (ends : Ending ending) (rest : List Char) :
    lines (line ++ (ending ++ '\n' :: rest)) = (line ++ ending) :: lines rest := by
  have apart : '\n' ∉ line ++ ending := by
    rw [List.mem_append]
    rintro (member | member)
    · exact unbroken.1 member
    · rcases ends with rfl | rfl
      · cases member
      · exact absurd (List.mem_singleton.mp member) (by decide)
  rw [← List.append_assoc, lines_append_break, lines_eq_singleton apart, List.singleton_append]

theorem lines_lone {first : List Char} {others : List (List Char)} (unbroken : Unbroken line)
    (following : lines rest = first :: others) :
    lines (line ++ '\r' :: rest) = (line ++ '\r' :: first) :: others := by
  have apart : '\n' ∉ line ++ ['\r'] := by
    rw [List.mem_append, List.mem_singleton]
    rintro (member | member)
    · exact unbroken.1 member
    · exact absurd member (by decide)
  rw [List.append_cons, lines_append apart, following, List.modifyHead_cons, List.append_assoc,
    List.singleton_append]

theorem lines_unifyBreaks_ended (unbroken : Unbroken line) (ends : Ending ending)
    (rest : List Char) :
    lines (unifyBreaks (line ++ (ending ++ '\n' :: rest))) = line :: lines (unifyBreaks rest) := by
  rw [unifyBreaks_ended unbroken ends, lines_append_break, lines_eq_singleton unbroken.1,
    List.singleton_append]

theorem lines_unifyBreaks_lone (unbroken : Unbroken line) (lone : rest.head? ≠ some '\n') :
    lines (unifyBreaks (line ++ '\r' :: rest)) = line :: lines (unifyBreaks rest) := by
  rw [unifyBreaks_append unbroken.2, unifyBreaks_lone lone, lines_append_break,
    lines_eq_singleton unbroken.1, List.singleton_append]

theorem exists_lines_cons (text : List Char) : ∃ first others, lines text = first :: others :=
  List.exists_cons_of_ne_nil (lines_ne_nil text)

theorem suffix_after_return (before after : List Char) : after <:+ before ++ '\r' :: after :=
  (List.suffix_cons '\r' after).trans (List.suffix_append before _)

/-- A line after a lone carriage return is a part of the line with its number in the whole text, since
its first line still stands on the same line as what comes before it. -/
theorem exists_line_of_rest (unbroken : Unbroken line) {content : List Char} {index : Nat}
    (present : (lines rest)[index]? = some content) :
    ∃ whole, (lines (line ++ '\r' :: rest))[index]? = some whole ∧ content <:+: whole := by
  obtain ⟨first, others, following⟩ := exists_lines_cons rest
  rw [following] at present
  rw [lines_lone unbroken following]
  cases index with
  | zero =>
      obtain rfl : first = content := Option.some.inj present
      exact ⟨_, rfl, (suffix_after_return line first).isInfix⟩
  | succ index => exact ⟨content, present, List.infix_rfl⟩

/-- **A line of the unified text is a part of a line that is no further down.** -/
theorem exists_line_of_unified {text content : List Char} {index : Nat}
    (present : (lines (unifyBreaks text))[index]? = some content) :
    ∃ above ≤ index, ∃ whole, (lines text)[above]? = some whole ∧ content <:+: whole := by
  induction text using breaks_induction generalizing index with
  | single line unbroken =>
      rw [unifyBreaks_eq_self unbroken.2] at present
      exact ⟨index, Nat.le_refl index, content, present, List.infix_rfl⟩
  | ended line ending rest unbroken ends ih =>
      rw [lines_unifyBreaks_ended unbroken ends] at present
      rw [lines_ended unbroken ends]
      cases index with
      | zero =>
          obtain rfl : line = content := Option.some.inj present
          exact ⟨0, Nat.le_refl 0, _, rfl, (List.prefix_append line ending).isInfix⟩
      | succ index =>
          obtain ⟨above, inside, whole, found, within⟩ := ih present
          exact ⟨above + 1, Nat.succ_le_succ inside, whole, found, within⟩
  | lone line rest unbroken lone ih =>
      rw [lines_unifyBreaks_lone unbroken lone] at present
      cases index with
      | zero =>
          obtain rfl : line = content := Option.some.inj present
          obtain ⟨first, others, following⟩ := exists_lines_cons rest
          rw [lines_lone unbroken following]
          exact ⟨0, Nat.le_refl 0, _, rfl, (List.prefix_append line _).isInfix⟩
      | succ index =>
          obtain ⟨above, inside, part, found, within⟩ := ih present
          obtain ⟨whole, stays, around⟩ := exists_line_of_rest unbroken found
          exact ⟨above, Nat.le_succ_of_le inside, whole, stays, within.trans around⟩

/-- A carriage return at the end of a line is no part of a token without one. -/
theorem infix_append_ending_iff {token : List Char} (free : '\r' ∉ token) (ends : Ending ending) :
    token <:+: line ++ ending ↔ token <:+: line := by
  rcases ends with rfl | rfl
  · rw [List.append_nil]
  · rw [infix_append_separator_iff free]
    refine ⟨fun within => within.elim id fun within => ?_, .inl⟩
    rw [List.infix_nil.mp within]
    exact List.nil_infix

/-- A token without a carriage return stays within a line, which moves down if at all. -/
theorem exists_unified_of_line {token text content : List Char} {index : Nat} (free : '\r' ∉ token)
    (present : (lines text)[index]? = some content) (within : token <:+: content) :
    ∃ below ≥ index, ∃ part, (lines (unifyBreaks text))[below]? = some part ∧ token <:+: part := by
  induction text using breaks_induction generalizing index content with
  | single line unbroken =>
      rw [unifyBreaks_eq_self unbroken.2]
      exact ⟨index, Nat.le_refl index, content, present, within⟩
  | ended line ending rest unbroken ends ih =>
      rw [lines_ended unbroken ends] at present
      rw [lines_unifyBreaks_ended unbroken ends]
      cases index with
      | zero =>
          obtain rfl : line ++ ending = content := Option.some.inj present
          rw [infix_append_ending_iff free ends] at within
          exact ⟨0, Nat.le_refl 0, line, rfl, within⟩
      | succ index =>
          obtain ⟨below, inside, part, found, within⟩ := ih present within
          exact ⟨below + 1, Nat.succ_le_succ inside, part, found, within⟩
  | lone line rest unbroken lone ih =>
      obtain ⟨first, others, following⟩ := exists_lines_cons rest
      rw [following] at ih
      rw [lines_lone unbroken following] at present
      rw [lines_unifyBreaks_lone unbroken lone]
      cases index with
      | zero =>
          obtain rfl : line ++ '\r' :: first = content := Option.some.inj present
          rcases (infix_append_separator_iff free).mp within with before | after
          · exact ⟨0, Nat.le_refl 0, line, rfl, before⟩
          · have top : (first :: others)[0]? = some first := rfl
            obtain ⟨below, -, part, found, within⟩ := ih top after
            exact ⟨below + 1, Nat.zero_le _, part, found, within⟩
      | succ index =>
          have lower : (first :: others)[index + 1]? = some content := present
          obtain ⟨below, inside, part, found, within⟩ := ih lower within
          exact ⟨below + 1, Nat.le_succ_of_le inside, part, found, within⟩

/-- Something holds of what stands before and after each carriage return that no line feed follows.
A carriage return at the end of the text is one of these. -/
def AtLoneReturns (holds : List Char → List Char → Prop) (text : List Char) : Prop :=
  ∀ before after, text = before ++ '\r' :: after → after.head? ≠ some '\n' → holds before after

section LoneReturns

variable {holds : List Char → List Char → Prop} {before after : List Char}

theorem exists_between {front back : List Char} (free : '\r' ∉ front)
    (split : front ++ back = before ++ '\r' :: after) :
    ∃ between, before = front ++ between ∧ back = between ++ '\r' :: after := by
  rcases List.append_eq_append_iff.mp split with
    ⟨between, whole, remains⟩ | ⟨between, whole, remains⟩
  · exact ⟨between, whole, remains⟩
  · cases between with
    | nil =>
        rw [List.append_nil] at whole
        exact ⟨[], by rw [whole, List.append_nil], remains.symm⟩
    | cons c between =>
        obtain ⟨rfl, -⟩ := List.cons.inj remains
        refine (free ?_).elim
        rw [whole]
        exact List.mem_append_right before List.mem_cons_self

theorem atLoneReturns_of_unbroken (unbroken : Unbroken line) : AtLoneReturns holds line := by
  intro before after split
  refine (unbroken.2 ?_).elim
  rw [split]
  exact List.mem_append_right before List.mem_cons_self

theorem atLoneReturns_ended_iff (unbroken : Unbroken line) (ends : Ending ending) :
    AtLoneReturns holds (line ++ (ending ++ '\n' :: rest)) ↔
      AtLoneReturns (fun before after => holds (line ++ (ending ++ '\n' :: before)) after) rest := by
  constructor
  · intro each before after split lone
    refine each _ after ?_ lone
    rw [split, List.append_assoc, List.append_assoc, List.cons_append]
  · intro each before after split lone
    obtain ⟨between, rfl, remains⟩ := exists_between unbroken.2 split
    have apart : '\r' ∉ ['\n'] := by decide
    rcases ends with rfl | rfl
    · obtain ⟨behind, rfl, found⟩ := exists_between apart remains
      exact each behind after found lone
    · cases between with
      | nil =>
          obtain ⟨-, rfl⟩ := List.cons.inj remains
          exact (lone rfl).elim
      | cons c between =>
          obtain ⟨rfl, others⟩ := List.cons.inj remains
          obtain ⟨behind, rfl, found⟩ := exists_between apart others
          exact each behind after found lone

theorem atLoneReturns_lone_iff (unbroken : Unbroken line) (lone : rest.head? ≠ some '\n') :
    AtLoneReturns holds (line ++ '\r' :: rest) ↔
      holds line rest ∧
        AtLoneReturns (fun before after => holds (line ++ '\r' :: before) after) rest := by
  constructor
  · intro each
    refine ⟨each line rest rfl lone, fun before after split alone => ?_⟩
    refine each _ after ?_ alone
    rw [split, List.append_assoc, List.cons_append]
  · rintro ⟨first, each⟩ before after split alone
    obtain ⟨between, rfl, remains⟩ := exists_between unbroken.2 split
    cases between with
    | nil =>
        obtain ⟨-, rfl⟩ := List.cons.inj remains
        rw [List.append_nil]
        exact first
    | cons c between =>
        obtain ⟨rfl, others⟩ := List.cons.inj remains
        exact each between after others alone

end LoneReturns

end SourceAudit.Text
