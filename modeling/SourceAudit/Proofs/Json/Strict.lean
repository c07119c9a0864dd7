import SourceAudit.Json.Strict

/-!
# Values that pass a test

A value passes a test of its parts when each part does: each item of an array, and each member of an object
with its name. So what can be done with a document is told by its parts, and a part of a document that
passes a test passes it as well (`passes_of_get?`).
-/

namespace SourceAudit.Json

variable {test : Test} {items : List Json} {members : Members} {name : LooseText} {value : Json}

theorem allPass_iff : allPass test items = true ↔ ∀ item ∈ items, item.passes test = true := by
  induction items with
  | nil => simp [allPass]
  | cons item rest ih => simp [allPass, ih]

theorem membersPass_iff : membersPass test members = true ↔
    ∀ member ∈ members, test.text member.1 = true ∧ member.2.passes test = true := by
  induction members with
  | nil => simp [membersPass]
  | cons member rest ih =>
      obtain ⟨name, value⟩ := member
      simp [membersPass, ih, and_assoc]

/-- The value of a member passes what the members pass. -/
theorem passes_of_get? (each : membersPass test members = true)
    (present : members.get? name = some value) : value.passes test = true := by
  rw [Members.get?, Option.map_eq_some_iff] at present
  obtain ⟨member, found, rfl⟩ := present
  exact (membersPass_iff.mp each member (List.mem_of_find?_eq_some found)).2

end SourceAudit.Json
