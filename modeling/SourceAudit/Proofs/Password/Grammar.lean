import SourceAudit.Password
import SourceAudit.Proofs.Text.Runs
import SourceAudit.Proofs.Text.Word
import Mathlib.Data.List.Forall2
import Mathlib.Data.List.TakeDrop

/-!
# The grammar of hardcoded passwords

An assignment as a grammar (`Assignment`): the name, perhaps a type after a colon, an equals sign
and a value between quotes, with blanks between the parts. Reading an assignment at the start of a text
agrees with the grammar in both directions (`afterAssignment?_eq_some_iff`), so a text is found to
assign a password exactly when a part of it is an assignment (`search_isSome_iff`). A type may
be made of spaces, which are blanks as well; no other blank is a character of a type.
-/

namespace SourceAudit.Password

open Text (isBlank isWord)

/-- A text of blanks only. -/
def Blanks (text : List Char) : Prop :=
  ∀ c ∈ text, isBlank c = true

/-- A name spelled letter by letter: each of its characters is one of the spellings at its place. -/
def Spells (letters : List (List Char)) (name : List Char) : Prop :=
  List.Forall₂ (fun spellings c => c ∈ spellings) letters name

/-- A colon and a type after it, with blanks around the colon. The type is not empty, but may
consist of spaces. -/
def Ascription (text : List Char) : Prop :=
  ∃ before after type, text = before ++ ':' :: (after ++ type) ∧ Blanks before ∧ Blanks after ∧
    type ≠ [] ∧ ∀ c ∈ type, isAnnotation c = true

/-- A value between two quotes, which need not be of one kind, after blanks. -/
def Value (text : List Char) : Prop :=
  ∃ gap opening value closing, text = gap ++ opening :: (value ++ [closing]) ∧ Blanks gap ∧
    isQuote opening = true ∧ isQuote closing = true ∧ ∀ c ∈ value, isQuote c = false

/-- An assignment of a value to a name, to which a type may be ascribed. This is the declared form,
which says nothing of how a text is searched for it. -/
def Assignment (text : List Char) : Prop :=
  ∃ name type gap value, text = name ++ (type ++ (gap ++ '=' :: value)) ∧
    Spells nameLetters name ∧ (type = [] ∨ Ascription type) ∧ Blanks gap ∧ Value value

theorem isBlank_quote {c : Char} (quote : isQuote c = true) : isBlank c = false := by
  simp only [isQuote, Bool.or_eq_true, beq_iff_eq] at quote
  rcases quote with rfl | rfl <;> decide

theorem isBlank_equals : isBlank '=' = false := by decide

theorem isBlank_colon : isBlank ':' = false := by decide

theorem isAnnotation_equals : isAnnotation '=' = false := by decide +kernel

/-- The space is the only character of a type that is a blank. -/
theorem eq_space_of_isBlank {c : Char} (inType : isAnnotation c = true)
    (blank : isBlank c = true) : c = ' ' := by
  unfold isAnnotation at inType
  simp only [Bool.or_eq_true, List.contains_eq_mem, decide_eq_true_eq] at inType
  rcases inType with word | member
  · rw [Text.isBlank_word word] at blank
    exact (Bool.false_ne_true blank).elim
  · change c ∈ ['.', '<', '>', '[', ']', '|', ' '] at member
    simp only [List.mem_cons, List.not_mem_nil, or_false] at member
    rcases member with rfl | rfl | rfl | rfl | rfl | rfl | rfl
    all_goals first
      | rfl
      | exact absurd blank (by decide)

/-- The letters of a name are read one after the other. -/
theorem afterLetters?_eq_some_iff {letters : List (List Char)} {text after : List Char} :
    afterLetters? letters text = some after ↔
      ∃ name, text = name ++ after ∧ Spells letters name := by
  induction letters generalizing text with
  | nil =>
      simp only [afterLetters?, Option.some.injEq]
      constructor
      · rintro rfl
        exact ⟨[], rfl, .nil⟩
      · rintro ⟨name, rfl, spelled⟩
        cases spelled
        rfl
  | cons spellings letters ih =>
      constructor
      · intro read
        cases text with
        | nil => simp [afterLetters?] at read
        | cons c rest =>
            simp only [afterLetters?, List.contains_eq_mem, decide_eq_true_eq] at read
            split at read
            next member =>
              obtain ⟨name, split, spelled⟩ := ih.mp read
              exact ⟨c :: name, by rw [split, List.cons_append], .cons member spelled⟩
            next => cases read
      · rintro ⟨name, rfl, spelled⟩
        cases spelled with
        | cons member spelled =>
            simp only [List.cons_append, afterLetters?, List.contains_eq_mem, member, decide_true,
              ↓reduceIte]
            exact ih.mpr ⟨_, rfl, spelled⟩

/-- A value ends with the first quote after its opening one. -/
theorem afterValue?_eq_some_iff {text after : List Char} :
    afterValue? text = some after ↔ ∃ value, text = value ++ after ∧ Value value := by
  constructor
  · intro read
    unfold afterValue? at read
    split at read
    · cases read
    next opening rest dropped =>
      obtain ⟨splitGap, -⟩ := Text.eq_run_append dropped
      split at read
      next opened =>
        split at read
        · cases read
        next closing last closed =>
          obtain ⟨splitValue, quoted⟩ := Text.eq_run_append closed
          simp only [Option.some.injEq] at read
          subst read
          refine ⟨text.takeWhile isBlank ++ opening :: (rest.takeWhile (!isQuote ·) ++ [closing]),
            ?_, _, opening, _, closing, rfl, fun c member => List.mem_takeWhile_imp member, opened,
            by simpa using quoted, fun c member => by simpa using List.mem_takeWhile_imp member⟩
          calc text = text.takeWhile isBlank ++ opening :: rest := splitGap
            _ = text.takeWhile isBlank ++
                  opening :: (rest.takeWhile (!isQuote ·) ++ closing :: last) := by
                rw [← splitValue]
            _ = _ := by simp only [List.append_assoc, List.cons_append, List.nil_append]
      next => cases read
  · rintro ⟨_, rfl, gap, opening, value, closing, rfl, blanks, opened, closed, plain⟩
    have dropped : (gap ++ opening :: (value ++ [closing]) ++ after).dropWhile isBlank =
        opening :: (value ++ closing :: after) := by
      rw [List.append_assoc, List.cons_append, List.append_assoc, List.singleton_append]
      exact Text.dropWhile_run blanks (isBlank_quote opened)
    have ended : (value ++ closing :: after).dropWhile (!isQuote ·) = closing :: after :=
      Text.dropWhile_run (fun c member => by simp [plain c member]) (by simp [closed])
    simp only [afterValue?, dropped, opened, ↓reduceIte, ended]

/-- What may stand between the colon and the equals sign: a type with blanks around it. -/
theorem isBlankAnnotation_iff {text : List Char} :
    isBlankAnnotation text = true ↔
      ∃ before type after, text = before ++ (type ++ after) ∧ Blanks before ∧ Blanks after ∧
        type ≠ [] ∧ ∀ c ∈ type, isAnnotation c = true := by
  constructor
  · intro accepted
    unfold isBlankAnnotation at accepted
    split at accepted
    next dropped =>
      rw [List.contains_eq_mem, decide_eq_true_eq] at accepted
      obtain ⟨before, after, split⟩ := List.append_of_mem accepted
      have blanks := List.dropWhile_eq_nil_iff.mp dropped
      refine ⟨before, [' '], after, split, fun c member => blanks c ?_, fun c member => blanks c ?_,
        List.cons_ne_nil _ _, ?_⟩
      · rw [split]
        exact List.mem_append_left _ member
      · rw [split]
        exact List.mem_append_right _ (List.mem_cons_of_mem _ member)
      · intro c member
        rw [List.mem_singleton] at member
        subst member
        decide +kernel
    next c rest dropped =>
      obtain ⟨split, -⟩ := Text.eq_run_append dropped
      simp only [Bool.and_eq_true, List.all_eq_true] at accepted
      refine ⟨text.takeWhile isBlank, c :: rest.takeWhile isAnnotation,
        rest.dropWhile isAnnotation, ?_, fun c member => List.mem_takeWhile_imp member, accepted.2,
        List.cons_ne_nil _ _, ?_⟩
      · rw [List.cons_append, List.takeWhile_append_dropWhile]
        exact split
      · intro d member
        rcases List.mem_cons.mp member with rfl | member
        · exact accepted.1
        · exact List.mem_takeWhile_imp member
  · rintro ⟨before, type, after, rfl, blanksBefore, blanksAfter, present, inType⟩
    unfold isBlankAnnotation
    rw [List.dropWhile_append_of_pos blanksBefore]
    cases dropped : type.dropWhile isBlank with
    | nil =>
        -- The type is made of blanks, so of spaces.
        have blanks := List.dropWhile_eq_nil_iff.mp dropped
        have all : (type ++ after).dropWhile isBlank = [] := by
          rw [List.dropWhile_append_of_pos blanks]
          exact List.dropWhile_eq_nil_iff.mpr blanksAfter
        obtain ⟨c, member⟩ := List.exists_mem_of_ne_nil type present
        have space : c = ' ' := eq_space_of_isBlank (inType c member) (blanks c member)
        subst space
        rw [all]
        simp only [List.contains_eq_mem, List.mem_append, member, true_or, or_true, decide_true]
    | cons c rest =>
        obtain ⟨split, solid⟩ := Text.eq_run_append dropped
        have restInType : ∀ d ∈ c :: rest, isAnnotation d = true := by
          intro d member
          apply inType d
          rw [split]
          exact List.mem_append_right _ member
        have all : (type ++ after).dropWhile isBlank = c :: (rest ++ after) := by
          rw [split, List.append_assoc, List.cons_append]
          exact Text.dropWhile_run (fun d member => List.mem_takeWhile_imp member) solid
        rw [all]
        simp only [Bool.and_eq_true, List.all_eq_true]
        refine ⟨restInType c List.mem_cons_self, ?_⟩
        rw [List.dropWhile_append_of_pos fun d member =>
          restInType d (List.mem_cons_of_mem c member)]
        intro d member
        exact blanksAfter d ((List.dropWhile_sublist isAnnotation).subset member)

/-- An assignment after its name: a type may come before the equals sign and the value. -/
theorem afterName?_eq_some_iff {text after : List Char} :
    afterName? text = some after ↔
      ∃ type gap value, text = type ++ (gap ++ '=' :: (value ++ after)) ∧
        (type = [] ∨ Ascription type) ∧ Blanks gap ∧ Value value := by
  constructor
  · intro read
    unfold afterName? at read
    split at read
    next rest dropped =>
      obtain ⟨split, -⟩ := Text.eq_run_append dropped
      obtain ⟨value, valueSplit, valid⟩ := afterValue?_eq_some_iff.mp read
      refine ⟨[], text.takeWhile isBlank, value, ?_, .inl rfl,
        fun c member => List.mem_takeWhile_imp member, valid⟩
      rw [← valueSplit]
      exact split
    next rest dropped =>
      obtain ⟨split, -⟩ := Text.eq_run_append dropped
      simp only [List.span_eq_takeWhile_dropWhile] at read
      split at read
      next value passed =>
        obtain ⟨passedSplit, -⟩ := Text.eq_run_append passed
        split at read
        next accepted =>
          obtain ⟨before, type, gap, between, blanksBefore, blanks, present, inType⟩ :=
            isBlankAnnotation_iff.mp accepted
          obtain ⟨value, valueSplit, valid⟩ := afterValue?_eq_some_iff.mp read
          rw [between, valueSplit] at passedSplit
          refine ⟨text.takeWhile isBlank ++ ':' :: (before ++ type), gap, value, split.trans ?_,
            .inr ⟨_, before, type, rfl, fun c member => List.mem_takeWhile_imp member, blanksBefore,
              present, inType⟩, blanks, valid⟩
          rw [passedSplit]
          simp only [List.append_assoc, List.cons_append]
        next => cases read
      next => cases read
    next => cases read
  · rintro ⟨type, gap, value, rfl, ascribed, blanks, valid⟩
    have readValue : afterValue? (value ++ after) = some after :=
      afterValue?_eq_some_iff.mpr ⟨value, rfl, valid⟩
    rcases ascribed with rfl | ⟨before, inner, type, rfl, blanksBefore, blanksInner, present, inType⟩
    · have dropped : (gap ++ '=' :: (value ++ after)).dropWhile isBlank = '=' :: (value ++ after) :=
        Text.dropWhile_run blanks isBlank_equals
      simp only [afterName?, List.nil_append, dropped, readValue]
    · have dropped : (before ++ ':' :: (inner ++ type) ++ (gap ++ '=' :: (value ++ after))).dropWhile
          isBlank = ':' :: (inner ++ (type ++ gap) ++ '=' :: (value ++ after)) := by
        rw [List.append_assoc, List.cons_append, Text.dropWhile_run blanksBefore isBlank_colon]
        simp only [List.append_assoc]
      -- Everything between the colon and the equals sign is a blank or a character of the type.
      have between : ∀ c ∈ inner ++ (type ++ gap), (isBlank c || isAnnotation c) = true := by
        intro c member
        rw [Bool.or_eq_true]
        rcases List.mem_append.mp member with member | member
        · exact .inl (blanksInner c member)
        · rcases List.mem_append.mp member with member | member
          · exact .inr (inType c member)
          · exact .inl (blanks c member)
      have stops : (isBlank '=' || isAnnotation '=') = false := by
        rw [isBlank_equals, isAnnotation_equals, Bool.or_self]
      have accepted : isBlankAnnotation (inner ++ (type ++ gap)) = true :=
        isBlankAnnotation_iff.mpr ⟨inner, type, gap, rfl, blanksInner, blanks, present, inType⟩
      simp only [afterName?, dropped, List.span_eq_takeWhile_dropWhile,
        Text.takeWhile_run between stops, Text.dropWhile_run between stops, accepted, ↓reduceIte,
        readValue]

/-- Reading an assignment at the start of a text agrees with the grammar. -/
theorem afterAssignment?_eq_some_iff {text after : List Char} :
    afterAssignment? text = some after ↔ ∃ part, text = part ++ after ∧ Assignment part := by
  rw [afterAssignment?, Option.bind_eq_some_iff]
  constructor
  · rintro ⟨named, readName, readRest⟩
    obtain ⟨name, rfl, spelled⟩ := afterLetters?_eq_some_iff.mp readName
    obtain ⟨type, gap, value, rfl, ascribed, blanks, valid⟩ := afterName?_eq_some_iff.mp readRest
    refine ⟨name ++ (type ++ (gap ++ '=' :: value)), ?_, name, type, gap, value, rfl, spelled,
      ascribed, blanks, valid⟩
    simp only [List.append_assoc, List.cons_append]
  · rintro ⟨_, rfl, name, type, gap, value, rfl, spelled, ascribed, blanks, valid⟩
    refine ⟨type ++ (gap ++ '=' :: (value ++ after)),
      afterLetters?_eq_some_iff.mpr ⟨name, ?_, spelled⟩,
      afterName?_eq_some_iff.mpr ⟨type, gap, value, rfl, ascribed, blanks, valid⟩⟩
    simp only [List.append_assoc, List.cons_append]

theorem searchFrom_isSome_iff {offset : Nat} {text : List Char} :
    (searchFrom offset text).isSome = true ↔ ∃ part, Assignment part ∧ part <:+: text := by
  induction text generalizing offset with
  | nil =>
      simp only [searchFrom, Option.isSome_none, Bool.false_eq_true, false_iff, not_exists, not_and,
        List.infix_nil]
      rintro part ⟨name, type, gap, value, rfl, -⟩ empty
      simp at empty
  | cons c rest ih =>
      rw [searchFrom]
      constructor
      · intro found
        split at found
        next after read =>
          obtain ⟨part, split, assigns⟩ := afterAssignment?_eq_some_iff.mp read
          refine ⟨part, assigns, ?_⟩
          rw [split]
          exact List.infix_append_left
        next =>
          obtain ⟨part, assigns, within⟩ := ih.mp found
          exact ⟨part, assigns, List.infix_cons within⟩
      · rintro ⟨part, assigns, within⟩
        split
        · rfl
        next unread =>
          rcases List.infix_cons_iff.mp within with ⟨after, split⟩ | within
          · have read := afterAssignment?_eq_some_iff.mpr ⟨part, split.symm, assigns⟩
            rw [unread] at read
            cases read
          · exact ih.mpr ⟨part, assigns, within⟩

/-- **A text is found to assign a password when a part of it is an assignment.** -/
theorem search_isSome_iff {text : List Char} :
    (search text).isSome = true ↔ ∃ part, Assignment part ∧ part <:+: text :=
  searchFrom_isSome_iff

/-- An assignment ends with a quote. -/
theorem Assignment.exists_closing {text : List Char} (assigns : Assignment text) :
    ∃ before closing, text = before ++ [closing] ∧ isQuote closing = true := by
  obtain ⟨name, type, gap, _, rfl, -, -, -, inner, opening, value, closing, rfl, -, -, closed, -⟩ :=
    assigns
  refine ⟨name ++ (type ++ (gap ++ '=' :: (inner ++ opening :: value))), closing, ?_, closed⟩
  simp only [List.append_assoc, List.cons_append]

end SourceAudit.Password
