import SourceAudit.Text.Blank
import SourceAudit.Text.Word

/-!
# Word characters and blanks

No character is both a word character and a blank (`isBlank_word`), so a run of the one kind ends where a
run of the other starts. Both kinds are given by ranges, and no two of these meet (`blank_ranges_apart`).
-/

namespace SourceAudit.Text

/-- No range of word characters meets a range of blanks. -/
theorem blank_ranges_apart :
    (alphanumericRanges.all fun word =>
      ((0x1c, 0x1f) :: whiteSpaceRanges).all fun blank =>
        decide (word.2 < blank.1) || decide (blank.2 < word.1)) = true := by
  decide +kernel

theorem isBlank_iff_exists {c : Char} :
    isBlank c = true ↔
      ∃ range ∈ (0x1c, 0x1f) :: whiteSpaceRanges, range.1 ≤ c.toNat ∧ c.toNat ≤ range.2 := by
  simp only [isBlank, isWhiteSpace, Bool.or_eq_true, CodeRanges.has_iff,
    Bool.and_eq_true, decide_eq_true_eq, List.mem_cons, exists_eq_or_imp]
  exact or_comm

/-- No word character is a blank. -/
theorem isBlank_word {c : Char} (word : isWord c = true) : isBlank c = false := by
  rw [Bool.eq_false_iff]
  intro blank
  obtain ⟨blankRange, blankMember, aboveBlank, belowBlank⟩ := isBlank_iff_exists.mp blank
  simp only [isWord, Bool.or_eq_true, beq_iff_eq] at word
  rcases word with rfl | word
  · exact absurd blank (by decide)
  · obtain ⟨wordRange, wordMember, aboveWord, belowWord⟩ := CodeRanges.has_iff.mp word
    have apart := blank_ranges_apart
    rw [List.all_eq_true] at apart
    have apart := apart wordRange wordMember
    rw [List.all_eq_true] at apart
    have apart := apart blankRange blankMember
    rw [Bool.or_eq_true, decide_eq_true_eq, decide_eq_true_eq] at apart
    omega

end SourceAudit.Text
