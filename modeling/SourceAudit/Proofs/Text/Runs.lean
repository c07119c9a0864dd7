import SourceAudit.Text.Blank
import Mathlib.Data.List.TakeWhile

/-!
# Runs of characters

A reader that passes over a run of characters of one kind stops at the first character of another
kind, and what it has passed over is all of that kind. So a run and what follows it can be told from the
text that they make (`run_append_inj`).
-/

namespace SourceAudit.Text

variable {kind : Char → Bool} {text run rest : List Char} {c : Char}

/-- Passing over a run stops at the first character of another kind. -/
theorem dropWhile_run (within : ∀ c ∈ run, kind c = true) (other : kind c = false) :
    (run ++ c :: rest).dropWhile kind = c :: rest := by
  rw [List.dropWhile_append_of_pos within, List.dropWhile_cons_of_neg (by simp [other])]

/-- A run ends at the first character of another kind. -/
theorem takeWhile_run (within : ∀ c ∈ run, kind c = true) (other : kind c = false) :
    (run ++ c :: rest).takeWhile kind = run := by
  rw [List.takeWhile_append_of_pos within, List.takeWhile_cons_of_neg (by simp [other]),
    List.append_nil]

/-- A text that does not end within a run is the run and a rest that starts with another kind. -/
theorem eq_run_append (dropped : text.dropWhile kind = c :: rest) :
    text = text.takeWhile kind ++ c :: rest ∧ kind c = false := by
  have split := List.takeWhile_append_dropWhile (p := kind) (l := text)
  rw [dropped] at split
  refine ⟨split.symm, ?_⟩
  have head := List.head?_dropWhile_not kind text
  rw [dropped] at head
  simpa using head

/-- A run and what follows it can be told from the text that they make. -/
theorem run_append_inj {other others : List Char} {d : Char} (within : ∀ c ∈ run, kind c = true)
    (stops : kind c = false) (within' : ∀ c ∈ other, kind c = true) (stops' : kind d = false)
    (same : run ++ c :: rest = other ++ d :: others) : run = other ∧ c :: rest = d :: others := by
  constructor
  · rw [← takeWhile_run within stops, same, takeWhile_run within' stops']
  · rw [← dropWhile_run within stops, same, dropWhile_run within' stops']

/-- What is trimmed off the end of a text is blank. -/
theorem exists_trimEnd_append (text : List Char) :
    ∃ blanks, (∀ c ∈ blanks, isBlank c = true) ∧ text = trimEnd text ++ blanks := by
  refine ⟨(text.reverse.takeWhile isBlank).reverse, ?_, ?_⟩
  · intro c member
    exact List.mem_takeWhile_imp (List.mem_reverse.mp member)
  · rw [trimEnd, ← List.reverse_append, List.takeWhile_append_dropWhile, List.reverse_reverse]

/-- Blanks at the end of a text are trimmed off, up to its last character that is not blank. -/
theorem trimEnd_append_blanks {blanks : List Char} (front : List Char) (solid : isBlank c = false)
    (within : ∀ c ∈ blanks, isBlank c = true) :
    trimEnd (front ++ c :: blanks) = front ++ [c] := by
  have split : (front ++ c :: blanks).reverse = blanks.reverse ++ c :: front.reverse := by simp
  rw [trimEnd, split, dropWhile_run (fun c member => within c (List.mem_reverse.mp member)) solid]
  simp

end SourceAudit.Text
