import SourceAudit.Proofs.Password.Grammar
import SourceAudit.Proofs.Text.Pattern

/-!
# Searching for hardcoded passwords

The search finds the leftmost assignment of a text (`search_eq_some_iff`), and where an assignment starts
its end is determined (`Span.eq_of_assigns`). It reads the parts of an assignment one after the other
without going back. The same places are found by a pattern (`Password.pattern`) that is matched by
backtracking, in which a type may give spaces back to the blanks around it: it describes the assignments
(`mem_language_pattern`), and as there is one way to end each of them, the first match is the only one
(`searchFrom_eq_pattern`).
-/

namespace SourceAudit.Password

open Text (Pattern isBlank)

/-- The part of a text in a span is an assignment. The span lies within the text, and is not empty. -/
structure Span.Assigns (span : Span) (text : List Char) : Prop where
  inside : span.stop ≤ text.length
  assigns : Assignment (text.extract span.start span.stop)

/-- Any number of blanks. -/
def blankPattern : Pattern := .run true isBlank

/-- The name, letter by letter. -/
def namePattern : Pattern :=
  nameLetters.foldr (fun spellings later => .one spellings.contains ++ later) .empty

/-- A colon and a type. -/
def ascriptionPattern : Pattern :=
  blankPattern ++ .one (· == ':') ++ blankPattern ++ .one isAnnotation ++ .run true isAnnotation

/-- A value between quotes. -/
def valuePattern : Pattern :=
  blankPattern ++ .one isQuote ++ .run true (!isQuote ·) ++ .one isQuote

/-- An assignment: `password(?:\s*:\s*[\w.<>\[\]| ]+)?\s*=\s*['"][^'"]*['"]`, the name in any case. -/
def pattern : Pattern :=
  namePattern ++ .either ascriptionPattern .empty ++ blankPattern ++ .one (· == '=') ++ valuePattern

variable {part text after : List Char} {letters : List (List Char)}

theorem Assignment.ne_nil (assigns : Assignment part) : part ≠ [] := by
  obtain ⟨before, closing, rfl, -⟩ := assigns.exists_closing
  exact List.append_ne_nil_of_right_ne_nil before (List.cons_ne_nil closing [])

theorem mem_language_letters :
    part ∈ (letters.foldr (fun spellings later => Pattern.one spellings.contains ++ later)
      .empty).language ↔ Spells letters part := by
  induction letters generalizing part with
  | nil => simp [Spells, List.forall₂_nil_left_iff]
  | cons spellings letters ih =>
      simp only [List.foldr_cons, Pattern.mem_language_append, Pattern.mem_language_one, ih, Spells,
        List.forall₂_cons_left_iff]
      constructor
      · rintro ⟨_, ⟨c, member, rfl⟩, rest, spelled, rfl⟩
        exact ⟨c, rest, by simpa using member, spelled, rfl⟩
      · rintro ⟨c, rest, member, spelled, rfl⟩
        exact ⟨[c], ⟨c, by simpa using member, rfl⟩, rest, spelled, rfl⟩

theorem mem_language_ascription : part ∈ ascriptionPattern.language ↔ Ascription part := by
  simp only [ascriptionPattern, blankPattern, Pattern.mem_language_append, Pattern.mem_language_run,
    Pattern.mem_language_one, beq_iff_eq]
  constructor
  · rintro ⟨_, ⟨_, ⟨_, ⟨before, blanksBefore, _, ⟨_, rfl, rfl⟩, rfl⟩, inner, blanks, rfl⟩, _,
      ⟨c, first, rfl⟩, rfl⟩, more, inType, rfl⟩
    refine ⟨before, inner, c :: more, by simp, blanksBefore, blanks, List.cons_ne_nil c more, ?_⟩
    exact List.forall_mem_cons.mpr ⟨first, inType⟩
  · rintro ⟨before, inner, type, rfl, blanksBefore, blanks, present, inType⟩
    obtain ⟨c, more, rfl⟩ := List.exists_cons_of_ne_nil present
    obtain ⟨first, inType⟩ := List.forall_mem_cons.mp inType
    exact ⟨_, ⟨_, ⟨_, ⟨before, blanksBefore, _, ⟨_, rfl, rfl⟩, rfl⟩, inner, blanks, rfl⟩, _,
      ⟨c, first, rfl⟩, rfl⟩, more, inType, by simp⟩

theorem mem_language_value : part ∈ valuePattern.language ↔ Value part := by
  simp only [valuePattern, blankPattern, Pattern.mem_language_append, Pattern.mem_language_run,
    Pattern.mem_language_one, Bool.not_eq_true']
  constructor
  · rintro ⟨_, ⟨_, ⟨gap, blanks, _, ⟨opening, opened, rfl⟩, rfl⟩, value, plain, rfl⟩, _,
      ⟨closing, closed, rfl⟩, rfl⟩
    exact ⟨gap, opening, value, closing, by simp, blanks, opened, closed, plain⟩
  · rintro ⟨gap, opening, value, closing, rfl, blanks, opened, closed, plain⟩
    exact ⟨_, ⟨_, ⟨gap, blanks, _, ⟨opening, opened, rfl⟩, rfl⟩, value, plain, rfl⟩, _,
      ⟨closing, closed, rfl⟩, by simp⟩

/-- The pattern describes the assignments. -/
theorem mem_language_pattern : part ∈ pattern.language ↔ Assignment part := by
  simp only [pattern, namePattern, blankPattern, Pattern.mem_language_append, mem_language_letters,
    Pattern.mem_language_either, Pattern.mem_language_empty, mem_language_ascription,
    Pattern.mem_language_run, Pattern.mem_language_one, beq_iff_eq, mem_language_value]
  constructor
  · rintro ⟨_, ⟨_, ⟨_, ⟨name, spelled, type, ascribed, rfl⟩, gap, blanks, rfl⟩, _, ⟨_, rfl, rfl⟩, rfl⟩,
      value, valid, rfl⟩
    exact ⟨name, type, gap, value, by simp, spelled, ascribed.symm, blanks, valid⟩
  · rintro ⟨name, type, gap, value, rfl, spelled, ascribed, blanks, valid⟩
    exact ⟨_, ⟨_, ⟨_, ⟨name, spelled, type, ascribed.symm, rfl⟩, gap, blanks, rfl⟩, _, ⟨_, rfl, rfl⟩,
      rfl⟩, value, valid, by simp⟩

/-- The first match of the pattern leaves what is left after reading an assignment. -/
theorem head?_rests_pattern (text : List Char) :
    (pattern.rests text).head? = afterAssignment? text := by
  apply Pattern.head?_rests_eq
  intro after
  rw [Pattern.mem_rests_iff, afterAssignment?_eq_some_iff]
  simp only [mem_language_pattern, and_comm]

theorem afterAssignment?_nil : afterAssignment? [] = none := rfl

/-- The search finds what the pattern finds first. -/
theorem searchFrom_eq_pattern (offset : Nat) (text : List Char) :
    (searchFrom offset text).map (fun span => (span.start, span.stop)) =
      pattern.searchFrom offset text := by
  induction text generalizing offset with
  | nil =>
      rw [searchFrom, Pattern.searchFrom, head?_rests_pattern, afterAssignment?_nil]
      rfl
  | cons c rest ih =>
      rw [searchFrom, Pattern.searchFrom, head?_rests_pattern]
      cases afterAssignment? (c :: rest) with
      | some after => rfl
      | none => exact ih (offset + 1)

/-- An assignment that starts at a place is what is read there. -/
theorem Span.assigns_iff {span : Span} :
    span.Assigns text ↔
      ∃ after, afterAssignment? (text.drop span.start) = some after ∧
        span.stop + after.length = text.length := by
  simp only [afterAssignment?_eq_some_iff]
  constructor
  · rintro ⟨inside, assigns⟩
    rw [List.extract_eq_take_drop] at assigns
    refine ⟨(text.drop span.start).drop (span.stop - span.start),
      ⟨_, (List.take_append_drop _ _).symm, assigns⟩, ?_⟩
    have present : 0 < ((text.drop span.start).take (span.stop - span.start)).length :=
      List.length_pos_iff.mpr assigns.ne_nil
    simp only [List.length_take, List.length_drop] at present ⊢
    omega
  · rintro ⟨after, ⟨part, split, assigns⟩, ends⟩
    have lengths := congrArg List.length split
    have present : 0 < part.length := List.length_pos_iff.mpr assigns.ne_nil
    rw [List.length_drop, List.length_append] at lengths
    have size : span.stop - span.start = part.length := by omega
    refine ⟨by omega, ?_⟩
    rw [List.extract_eq_take_drop, split, size, List.take_left]
    exact assigns

/-- An assignment is not empty. -/
theorem Span.Assigns.start_lt_stop {span : Span} (assigns : span.Assigns text) :
    span.start < span.stop := by
  have present := List.length_pos_iff.mpr assigns.assigns.ne_nil
  rw [List.extract_eq_take_drop, List.length_take] at present
  omega

/-- Where an assignment starts, its end is determined. -/
theorem Span.eq_of_assigns {first second : Span} (assigns : first.Assigns text)
    (alsoAssigns : second.Assigns text) (start : first.start = second.start) : first = second := by
  obtain ⟨after, read, ends⟩ := assigns_iff.mp assigns
  obtain ⟨others, alsoRead, alsoEnds⟩ := assigns_iff.mp alsoAssigns
  rw [start, alsoRead, Option.some.injEq] at read
  rw [read] at alsoEnds
  have stop : first.stop = second.stop := Nat.add_right_cancel (ends.trans alsoEnds.symm)
  cases first
  cases second
  rw [Span.mk.injEq]
  exact ⟨start, stop⟩

/-- An assignment in a text is one in a longer text, one place further on. -/
theorem Span.assigns_cons_iff {c : Char} {start stop : Nat} :
    (⟨start + 1, stop + 1⟩ : Span).Assigns (c :: text) ↔ (⟨start, stop⟩ : Span).Assigns text := by
  have part : (c :: text).extract (start + 1) (stop + 1) = text.extract start stop := by
    simp only [List.extract_eq_take_drop, Nat.add_sub_add_right, List.drop_succ_cons]
  constructor
  · rintro ⟨inside, assigns⟩
    exact ⟨Nat.le_of_succ_le_succ inside, part ▸ assigns⟩
  · rintro ⟨inside, assigns⟩
    exact ⟨Nat.succ_le_succ inside, part.symm ▸ assigns⟩

/-- The first assignment in the rest of a text, counted from the start of the whole. -/
theorem searchFrom_eq_some_iff {offset : Nat} {span : Span} :
    searchFrom offset text = some span ↔
      ∃ found : Span, found.Assigns text ∧
        (∀ other : Span, other.Assigns text → found.start ≤ other.start) ∧
        span = ⟨offset + found.start, offset + found.stop⟩ := by
  induction text generalizing offset with
  | nil =>
      simp only [searchFrom, reduceCtorEq, false_iff, not_exists, not_and]
      intro found assigns
      exact (assigns.assigns.ne_nil (by simp)).elim
  | cons c rest ih =>
      rw [searchFrom]
      cases read : afterAssignment? (c :: rest) with
      | some after =>
          have fits : after.length ≤ (c :: rest).length := by
            obtain ⟨part, split, -⟩ := afterAssignment?_eq_some_iff.mp read
            rw [split, List.length_append]
            exact Nat.le_add_left _ _
          have here : (⟨0, (c :: rest).length - after.length⟩ : Span).Assigns (c :: rest) :=
            Span.assigns_iff.mpr ⟨after, read, Nat.sub_add_cancel fits⟩
          simp only [Option.some.injEq]
          constructor
          · rintro rfl
            exact ⟨_, here, fun other _ => Nat.zero_le other.start, rfl⟩
          · rintro ⟨found, assigns, first, rfl⟩
            have start := Nat.le_zero.mp (first _ here)
            rw [Span.eq_of_assigns assigns here start]
            rfl
      | none =>
          -- Nothing starts here, so everything starts in the rest.
          have later : ∀ span : Span, span.Assigns (c :: rest) →
              ∃ inner : Span, inner.Assigns rest ∧ span = ⟨inner.start + 1, inner.stop + 1⟩ := by
            rintro ⟨start, stop⟩ assigns
            have ordered := assigns.start_lt_stop
            cases start with
            | zero =>
                obtain ⟨after, readHere, -⟩ := Span.assigns_iff.mp assigns
                rw [List.drop_zero, read] at readHere
                cases readHere
            | succ start =>
                obtain ⟨stop, rfl⟩ := Nat.exists_eq_add_one_of_ne_zero (Nat.ne_zero_of_lt ordered)
                exact ⟨⟨start, stop⟩, Span.assigns_cons_iff.mp assigns, rfl⟩
          rw [ih]
          constructor
          · rintro ⟨found, assigns, first, rfl⟩
            refine ⟨⟨found.start + 1, found.stop + 1⟩, Span.assigns_cons_iff.mpr assigns, ?_, ?_⟩
            · intro other assignsOther
              obtain ⟨inner, assignsInner, rfl⟩ := later other assignsOther
              exact Nat.succ_le_succ (first inner assignsInner)
            · simp only [Nat.add_assoc, Nat.add_comm 1]
          · rintro ⟨_, assigns, first, rfl⟩
            obtain ⟨found, assignsFound, rfl⟩ := later _ assigns
            refine ⟨found, assignsFound, ?_, ?_⟩
            · intro other assignsOther
              exact Nat.le_of_succ_le_succ (first ⟨other.start + 1, other.stop + 1⟩
                (Span.assigns_cons_iff.mpr assignsOther))
            · simp only [Nat.add_assoc, Nat.add_comm 1]

theorem search_eq_some_iff {span : Span} :
    search text = some span ↔
      span.Assigns text ∧ ∀ other : Span, other.Assigns text → span.start ≤ other.start := by
  rw [search, searchFrom_eq_some_iff]
  simp only [Nat.zero_add]
  constructor
  · rintro ⟨found, assigns, first, rfl⟩
    exact ⟨assigns, first⟩
  · rintro ⟨assigns, first⟩
    exact ⟨span, assigns, first, rfl⟩

theorem search_eq_none_iff : search text = none ↔ ∀ span : Span, ¬ span.Assigns text := by
  constructor
  · intro absent span assigns
    have within : text.extract span.start span.stop <:+: text := by
      rw [List.extract_eq_take_drop]
      exact (List.take_prefix _ _).isInfix.trans (List.drop_suffix _ _).isInfix
    have found := search_isSome_iff.mpr ⟨_, assigns.assigns, within⟩
    rw [absent] at found
    cases found
  · intro absent
    rw [Option.eq_none_iff_forall_ne_some]
    intro span found
    exact absent span (search_eq_some_iff.mp found).1

/-- **The search finds the leftmost assignment, and where it ends.** At most one assignment starts at any
place of a text. Nothing is found just when no part of the text is an assignment, and otherwise the one
that starts first. It is the first match of the pattern. -/
theorem search_leftmost_assignment (text : List Char) :
    (search text).map (fun span => (span.start, span.stop)) = pattern.search text ∧
      (∀ start, {stop | (⟨start, stop⟩ : Span).Assigns text}.Subsingleton) ∧
      (search text = none ↔ ∀ span : Span, ¬ span.Assigns text) ∧
      ∀ span : Span, search text = some span ↔
        span.Assigns text ∧ ∀ other : Span, other.Assigns text → span.start ≤ other.start := by
  refine ⟨searchFrom_eq_pattern 0 text, ?_, search_eq_none_iff, fun span => search_eq_some_iff⟩
  intro start stop assigns other assignsOther
  exact congrArg Span.stop (Span.eq_of_assigns assigns assignsOther rfl)

/-- A name with a long s, a type of spaces and a value over two lines between quotes of two kinds, with
another assignment in what follows. -/
theorem search_leftmost_assignment_mixed_quotes :
    let text := "x.paſſWORD :  =\t\"a\nb' password=''".toList
    search text = some ⟨2, 21⟩ ∧ pattern.search text = some (2, 21) ∧
      (⟨22, 33⟩ : Span).Assigns text ∧ ∀ stop, (⟨2, stop⟩ : Span).Assigns text → stop = 21 := by
  intro text
  have found : search text = some ⟨2, 21⟩ := by decide +kernel
  obtain ⟨same, unique, -, leftmost⟩ := search_leftmost_assignment text
  rw [found] at same
  have assigns := ((leftmost ⟨2, 21⟩).mp found).1
  refine ⟨found, same.symm, ?_, fun stop other => unique 2 other assigns⟩
  exact Span.assigns_iff.mpr ⟨[], by decide +kernel, rfl⟩

end SourceAudit.Password
