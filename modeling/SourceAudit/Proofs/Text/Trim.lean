import SourceAudit.Proofs.Text.Runs

/-!
# Blanks around a text

What is trimmed off a text stands around what is left of it (`exists_trim`), and blanks put around a text
make no difference to that (`trim_surrounded`). A text is left as it is if it neither starts nor ends with
a blank (`trim_eq_self_iff`), and what is left of a text is such a one (`isTrimmed_trim`).
-/

namespace SourceAudit.Text

variable {text before after : List Char} {c : Char}

theorem trimEnd_append_of_blank (text : List Char) (blank : ∀ c ∈ after, isBlank c = true) :
    trimEnd (text ++ after) = trimEnd text := by
  rw [trimEnd, List.reverse_append, List.dropWhile_append_of_pos, ← trimEnd]
  exact fun c member => blank c (List.mem_reverse.mp member)

theorem trimStart_of_blank (blank : ∀ c ∈ text, isBlank c = true) : trimStart text = [] :=
  List.dropWhile_eq_nil_iff.mpr blank

/-- A text is trimmed to nothing if it holds blanks only. -/
theorem trim_eq_nil_iff : trim text = [] ↔ ∀ c ∈ text, isBlank c = true := by
  constructor
  · intro none
    obtain ⟨blanks, blank, split⟩ := exists_trimEnd_append (trimStart text)
    rw [← trim, none, List.nil_append] at split
    -- A text that does not start with a blank holds more than blanks.
    have start : trimStart text = [] := by
      cases rest : trimStart text with
      | nil => rfl
      | cons c rest' =>
          have solid := (eq_run_append rest).2
          rw [blank c (split ▸ rest ▸ List.mem_cons_self)] at solid
          cases solid
    exact List.dropWhile_eq_nil_iff.mp start
  · intro blank
    rw [trim, trimStart_of_blank blank]
    rfl

/-- Blanks around a text are trimmed off with those that it has itself. -/
theorem trim_surrounded (blankBefore : ∀ c ∈ before, isBlank c = true)
    (blankAfter : ∀ c ∈ after, isBlank c = true) :
    trim (before ++ text ++ after) = trim text := by
  rw [List.append_assoc, trim, trimStart, List.dropWhile_append_of_pos blankBefore, ← trimStart]
  cases start : trimStart text with
  | nil =>
      have blank := List.dropWhile_eq_nil_iff.mp start
      rw [trimStart, List.dropWhile_append_of_pos blank, ← trimStart, trimStart_of_blank blankAfter,
        trim, start]
  | cons c rest =>
      obtain ⟨split, solid⟩ := eq_run_append start
      have kept : trimStart (text ++ after) = c :: rest ++ after := by
        rw [split, List.append_assoc]
        exact dropWhile_run (fun c member => List.mem_takeWhile_imp member) solid
      rw [kept, trimEnd_append_of_blank _ blankAfter, trim, start]

/-- What is trimmed off a text is blank. -/
theorem exists_trim (text : List Char) :
    ∃ before after, (∀ c ∈ before, isBlank c = true) ∧ (∀ c ∈ after, isBlank c = true) ∧
      text = before ++ trim text ++ after := by
  obtain ⟨after, blankAfter, split⟩ := exists_trimEnd_append (trimStart text)
  refine ⟨text.takeWhile isBlank, after, fun c member => List.mem_takeWhile_imp member, blankAfter, ?_⟩
  rw [List.append_assoc, trim, ← split]
  exact List.takeWhile_append_dropWhile.symm

/-- A text that neither starts nor ends with a blank. -/
def IsTrimmed (text : List Char) : Prop :=
  ∀ c, text.head? = some c ∨ text.getLast? = some c → isBlank c = false

theorem isTrimmed_trim (text : List Char) : IsTrimmed (trim text) := by
  rintro c (first | last)
  · cases start : trimStart text with
    | nil =>
        rw [trim, start] at first
        cases first
    | cons d rest =>
        -- The first character that is no blank stays in front of the blanks at the end.
        obtain ⟨blanks, blank, split⟩ := exists_trimEnd_append (d :: rest)
        have solid := (eq_run_append start).2
        rw [trim, start] at first
        cases kept : trimEnd (d :: rest) with
        | nil =>
            rw [kept] at first
            cases first
        | cons e others =>
            rw [kept] at first split
            cases first
            rw [← (List.cons.inj split).1]
            exact solid
  · rw [trim, trimEnd, List.getLast?_reverse] at last
    have stops := List.head?_dropWhile_not isBlank (trimStart text).reverse
    rw [last] at stops
    simpa using stops

theorem trim_eq_self_iff : trim text = text ↔ IsTrimmed text := by
  constructor
  · intro same
    exact same ▸ isTrimmed_trim text
  · intro trimmed
    have kept {run : List Char} (solid : ∀ c, run.head? = some c → isBlank c = false) :
        run.dropWhile isBlank = run := by
      cases run with
      | nil => rfl
      | cons c rest => exact List.dropWhile_cons_of_neg (by simp [solid c rfl])
    rw [trim, trimStart, kept fun c first => trimmed c (.inl first), trimEnd,
      kept fun c last => trimmed c (.inr (List.head?_reverse.symm.trans last)), List.reverse_reverse]

theorem mem_of_mem_trim (member : c ∈ trim text) : c ∈ text := by
  obtain ⟨before, after, -, -, split⟩ := exists_trim text
  rw [split]
  exact List.mem_append_left after (List.mem_append_right before member)

theorem mem_trim_of_solid (member : c ∈ text) (solid : isBlank c = false) : c ∈ trim text := by
  obtain ⟨before, after, blankBefore, blankAfter, split⟩ := exists_trim text
  rw [split, List.mem_append, List.mem_append] at member
  rcases member with (early | kept) | late
  · cases (blankBefore c early).symm.trans solid
  · exact kept
  · cases (blankAfter c late).symm.trans solid

end SourceAudit.Text
