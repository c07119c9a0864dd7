/-!
# Lines

Only the line feed separates lines: a carriage return stays part of its line. A text with `n` line
feeds has `n + 1` lines (`length_lines`). A file that is read as text has its line breaks unified
first (`unifyBreaks`).
-/

namespace SourceAudit.Text

/-- Put one character in front of the first part; a separator starts a new one. -/
def consPart (separator c : Char) (parts : List (List Char)) : List (List Char) :=
  if c = separator then [] :: parts else parts.modifyHead (c :: ·)

/-- The parts of a text between separators. The empty text has one part, and separators beside each
other have an empty part between them. -/
def splitOn (separator : Char) (text : List Char) : List (List Char) :=
  text.foldr (consPart separator) [[]]

@[simp]
theorem splitOn_nil (separator : Char) : splitOn separator [] = [[]] := rfl

@[simp]
theorem splitOn_cons (separator c : Char) (text : List Char) :
    splitOn separator (c :: text) = consPart separator c (splitOn separator text) := rfl

/-- There is one part more than there are separators. -/
theorem length_splitOn (separator : Char) (text : List Char) :
    (splitOn separator text).length = text.count separator + 1 := by
  induction text with
  | nil => rfl
  | cons c rest ih =>
    by_cases same : c = separator
    · simp [consPart, same, ih]
    · simp [consPart, same, ih, List.count_cons_of_ne same]

/-- The lines of a text, without the line feeds between them. A line feed at the end starts one more
line, which is empty. -/
def lines (text : List Char) : List (List Char) :=
  splitOn '\n' text

/-- There is one line more than there are line feeds. -/
theorem length_lines (text : List Char) : (lines text).length = text.count '\n' + 1 :=
  length_splitOn '\n' text

/-- Every line break, whether a carriage return, a line feed or both in this order, as one line
feed. The flag says that a carriage return has just been read. -/
def unifyBreaks (text : List Char) : List Char :=
  (text.foldl step (([] : List Char), false)).1.reverse
where
  /-- One character: a line feed that ends a pair adds nothing. -/
  step : List Char × Bool → Char → List Char × Bool
    | (done, afterReturn), c =>
      if c = '\r' then ('\n' :: done, true)
      else if c = '\n' && afterReturn then (done, false)
      else (c :: done, false)

end SourceAudit.Text
