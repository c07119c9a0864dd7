import SourceAudit.Text.Lines

/-!
# Lines and the tokens in them

The lines of a text are what stands between its line feeds: the lines of two texts with a line feed
between them are those of the first and then those of the second (`lines_append_break`), and a text
without one is put in front of the first line (`lines_append`). Nothing without a line feed can stand
across such a joint, so a token without one occurs in a text exactly when it occurs in one of its
lines (`infix_iff_exists_line`). Text around a part of a text makes the first and the last line of the
part longer and moves all its lines down, and breaks none of them (`exists_line_of_part`).
-/

namespace SourceAudit.Text

theorem splitOn_eq_listSplitOn (separator : Char) (text : List Char) :
    splitOn separator text = text.splitOn separator := by
  induction text with
  | nil => rfl
  | cons c rest ih =>
      rw [splitOn_cons, List.splitOn_cons_eq_if_modifyHead, ih, consPart]
      simp only [beq_iff_eq]

theorem splitOn_ne_nil (separator : Char) (text : List Char) : splitOn separator text ≠ [] := by
  rw [splitOn_eq_listSplitOn]
  exact List.splitOn_ne_nil separator text

/-- No part holds a separator. -/
theorem not_mem_of_mem_splitOn {separator : Char} {text part : List Char}
    (member : part ∈ splitOn separator text) : separator ∉ part := by
  induction text generalizing part with
  | nil =>
      rw [List.mem_singleton.mp member]
      exact List.not_mem_nil
  | cons c rest ih =>
      rw [splitOn_cons, consPart] at member
      split at member
      next =>
        rcases List.mem_cons.mp member with rfl | later
        · exact List.not_mem_nil
        · exact ih later
      next other =>
        obtain ⟨first, others, parts⟩ := List.exists_cons_of_ne_nil (splitOn_ne_nil separator rest)
        rw [parts, List.modifyHead_cons, List.mem_cons] at member
        rw [parts] at ih
        rcases member with rfl | later
        · rw [List.mem_cons, not_or]
          exact ⟨Ne.symm other, ih List.mem_cons_self⟩
        · exact ih (List.mem_cons_of_mem first later)

theorem lines_ne_nil (text : List Char) : lines text ≠ [] :=
  splitOn_ne_nil '\n' text

/-- A line feed between two texts separates their lines. -/
theorem lines_append_break (first second : List Char) :
    lines (first ++ '\n' :: second) = lines first ++ lines second := by
  simp only [lines, splitOn_eq_listSplitOn]
  exact List.splitOn_append_cons_self first second

/-- Text in front of the first line is put in front of it. -/
theorem lines_append {front : List Char} (free : '\n' ∉ front) (rest : List Char) :
    lines (front ++ rest) = (lines rest).modifyHead (front ++ ·) := by
  induction front with
  | nil =>
      have same : ([] ++ · : List Char → List Char) = id := rfl
      rw [same, List.modifyHead_id]
      rfl
  | cons c front ih =>
      rw [List.mem_cons, not_or] at free
      rw [lines, List.cons_append, splitOn_cons, consPart, if_neg (Ne.symm free.1), ← lines,
        ih free.2, List.modifyHead_modifyHead]
      rfl

/-- A text without a line feed is one line. -/
theorem lines_eq_singleton {text : List Char} (unbroken : '\n' ∉ text) : lines text = [text] := by
  rw [lines, splitOn_eq_listSplitOn]
  exact List.splitOn_eq_singleton unbroken

/-- A text is one line, or a first line and the text of the others. -/
theorem exists_first_line (text : List Char) :
    '\n' ∉ text ∨ ∃ line rest, '\n' ∉ line ∧ text = line ++ '\n' :: rest := by
  by_cases broken : '\n' ∈ text
  · obtain ⟨line, rest, split, unbroken⟩ := List.eq_append_cons_of_mem broken
    exact .inr ⟨line, rest, unbroken, split⟩
  · exact .inl broken

/-- Induction over the lines of a text: from the text after the first line to the whole. -/
theorem lines_induction {motive : List Char → Prop}
    (single : ∀ line, '\n' ∉ line → motive line)
    (more : ∀ line rest, '\n' ∉ line → motive rest → motive (line ++ '\n' :: rest))
    (text : List Char) : motive text := by
  induction size : text.length using Nat.strongRecOn generalizing text with
  | ind size ih =>
      rcases exists_first_line text with unbroken | ⟨line, rest, unbroken, split⟩
      · exact single text unbroken
      · subst split
        refine more line rest unbroken (ih rest.length ?_ rest rfl)
        rw [← size, List.length_append, List.length_cons]
        omega

/-- Nothing without a separator stands across one. -/
theorem infix_append_separator_iff {token first second : List Char} {separator : Char}
    (unbroken : separator ∉ token) :
    token <:+: first ++ separator :: second ↔ token <:+: first ∨ token <:+: second := by
  have withSeparator {part : List Char} (start : part <+: separator :: second)
      (apart : separator ∉ part) : part = [] := by
    cases part with
    | nil => rfl
    | cons c rest =>
        rw [List.cons_prefix_cons] at start
        exact (apart (start.1 ▸ List.mem_cons_self)).elim
  rw [List.infix_append_iff]
  constructor
  · rintro (within | within | ⟨left, right, rfl, ending, start⟩)
    · exact .inl within
    · rcases List.infix_cons_iff.mp within with start | within
      · rw [withSeparator start unbroken]
        exact .inl (List.nil_infix)
      · exact .inr within
    · have none : right = [] :=
        withSeparator start fun member => unbroken (List.mem_append_right left member)
      rw [none, List.append_nil]
      exact .inl ending.isInfix
  · rintro (within | within)
    · exact .inl within
    · exact .inr (.inl (List.infix_cons within))

/-- A token without a line feed occurs in a text when it occurs in one of its lines. -/
theorem infix_iff_exists_line {token text : List Char} (unbroken : '\n' ∉ token) :
    token <:+: text ↔ ∃ line ∈ lines text, token <:+: line := by
  induction text using lines_induction with
  | single line apart =>
      rw [lines_eq_singleton apart]
      simp only [List.mem_singleton, exists_eq_left]
  | more line rest apart ih =>
      rw [infix_append_separator_iff unbroken, lines_append_break, lines_eq_singleton apart, ih]
      simp only [List.singleton_append, List.mem_cons, exists_eq_or_imp]

/-- No line holds a line feed. -/
theorem not_mem_of_mem_lines {text line : List Char} (member : line ∈ lines text) : '\n' ∉ line :=
  not_mem_of_mem_splitOn member

/-- Every line is a part of its text. -/
theorem infix_of_mem_lines {text line : List Char} (member : line ∈ lines text) : line <:+: text :=
  (infix_iff_exists_line (not_mem_of_mem_lines member)).mpr ⟨line, member, List.infix_rfl⟩

section Parts

variable {text line : List Char} {index : Nat}

/-- Text behind a text goes on where its last line ends. -/
theorem exists_line_append (present : (lines text)[index]? = some line) (after : List Char) :
    ∃ longer, (lines (text ++ after))[index]? = some longer ∧ line <+: longer := by
  induction text using lines_induction generalizing index with
  | single only unbroken =>
      rw [lines_eq_singleton unbroken, List.getElem?_singleton,
        Option.ite_none_right_eq_some] at present
      obtain ⟨rfl, same⟩ := present
      cases same
      obtain ⟨next, others, split⟩ := List.exists_cons_of_ne_nil (lines_ne_nil after)
      refine ⟨line ++ next, ?_, List.prefix_append line next⟩
      rw [lines_append unbroken, split]
      rfl
  | more first rest unbroken ih =>
      rw [lines_append_break, lines_eq_singleton unbroken, List.singleton_append] at present
      rw [List.append_assoc, List.cons_append, lines_append_break, lines_eq_singleton unbroken,
        List.singleton_append]
      cases index with
      | zero => exact ⟨line, present, List.prefix_rfl⟩
      | succ index => exact ih present

/-- Text in front of a text ends where its first line starts. -/
theorem exists_line_prepend (present : (lines text)[index]? = some line) (before : List Char) :
    ∃ longer, (lines (before ++ text))[before.count '\n' + index]? = some longer ∧
      line <:+ longer := by
  induction before using lines_induction with
  | single front unbroken =>
      rw [lines_append unbroken, List.count_eq_zero_of_not_mem unbroken, Nat.zero_add,
        List.getElem?_modifyHead, present]
      cases index with
      | zero => exact ⟨front ++ line, rfl, List.suffix_append front line⟩
      | succ index => exact ⟨line, rfl, List.suffix_rfl⟩
  | more front rest unbroken ih =>
      obtain ⟨longer, found, ends⟩ := ih
      refine ⟨longer, ?_, ends⟩
      rw [List.append_assoc, List.cons_append, lines_append_break, lines_eq_singleton unbroken,
        List.singleton_append, List.count_append, List.count_cons_self,
        List.count_eq_zero_of_not_mem unbroken, Nat.zero_add, Nat.add_right_comm,
        List.getElem?_cons_succ]
      exact found

/-- **A line of a part of a text is a part of a line of the text.** It is further down by the number of
line feeds before the part. -/
theorem exists_line_of_part (present : (lines text)[index]? = some line) (before after : List Char) :
    ∃ whole, (lines (before ++ text ++ after))[before.count '\n' + index]? = some whole ∧
      line <:+: whole := by
  obtain ⟨longer, found, ends⟩ := exists_line_prepend present before
  obtain ⟨whole, found, starts⟩ := exists_line_append found after
  exact ⟨whole, found, ends.isInfix.trans starts.isInfix⟩

end Parts

end SourceAudit.Text
