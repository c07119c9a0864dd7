/-!
# Ranges of code points

A character property is a list of inclusive ranges of code points.
-/

namespace SourceAudit.Text

/-- A set of code points, as inclusive ranges. Nothing depends on their order, though the tables
list them in ascending order. -/
abbrev CodeRanges := List (Nat × Nat)

/-- A point is in a set when one of the ranges holds it. -/
def CodeRanges.has (ranges : CodeRanges) (point : Nat) : Bool :=
  ranges.any fun range => decide (range.1 ≤ point) && decide (point ≤ range.2)

theorem CodeRanges.has_iff {ranges : CodeRanges} {point : Nat} :
    ranges.has point = true ↔ ∃ range ∈ ranges, range.1 ≤ point ∧ point ≤ range.2 := by
  simp [CodeRanges.has]

end SourceAudit.Text
