import SourceAudit.Catalog
import SourceAudit.Proofs.Detection

/-!
# Laws of the catalog

What holds of every rule that a profile lists: no token holds a line break, and the rules of one
profile have different identifiers.
-/

namespace SourceAudit.Catalog

/-- No token of the catalog holds a line feed or a carriage return. -/
theorem freeOf_of_mem_profiles :
    ∀ entry ∈ profiles, ∀ rule ∈ entry.2,
      rule.detector.FreeOf '\n' ∧ rule.detector.FreeOf '\r' := by
  decide +kernel

/-- The rules of a profile have different identifiers. -/
theorem nodup_ids : ∀ entry ∈ profiles, (entry.2.map (·.id)).Nodup := by
  decide +kernel

/-- The profile of an extension is the one that the catalog lists for it. -/
theorem profileFor_eq_of_mem {extension : String} {rules : List Rule}
    (listed : (extension, rules) ∈ profiles) : profileFor extension = rules := by
  simp only [profiles, List.mem_cons, Prod.mk.injEq, List.not_mem_nil, or_false] at listed
  rcases listed with
    ⟨rfl, rfl⟩ | ⟨rfl, rfl⟩ | ⟨rfl, rfl⟩ | ⟨rfl, rfl⟩ | ⟨rfl, rfl⟩ | ⟨rfl, rfl⟩
  all_goals rfl

/-- An extension that the catalog does not list has no rules. -/
theorem profileFor_eq_nil {extension : String}
    (unlisted : ∀ rules, (extension, rules) ∉ profiles) : profileFor extension = [] := by
  have missed : profiles.find? (·.1 == extension) = none := by
    rw [List.find?_eq_none]
    rintro ⟨other, rules⟩ member same
    rw [beq_iff_eq] at same
    subst same
    exact unlisted rules member
  rw [profileFor, missed]
  rfl

/-- An extension has no rules, or the catalog lists its profile. -/
theorem profileFor_cases (extension : String) :
    profileFor extension = [] ∨ (extension, profileFor extension) ∈ profiles := by
  by_cases listed : ∃ rules, (extension, rules) ∈ profiles
  · obtain ⟨rules, member⟩ := listed
    rw [profileFor_eq_of_mem member]
    exact .inr member
  · exact .inl (profileFor_eq_nil (not_exists.mp listed))

/-- A profile that has a rule is one that the catalog lists. -/
theorem mem_profiles_of_mem_profileFor {extension : String} {rule : Rule}
    (listed : rule ∈ profileFor extension) : (extension, profileFor extension) ∈ profiles := by
  rcases profileFor_cases extension with none | known
  · rw [none] at listed
    cases listed
  · exact known

/-- No token of a profile holds a line feed or a carriage return. -/
theorem freeOf_of_mem_profileFor {extension : String} {rule : Rule}
    (listed : rule ∈ profileFor extension) :
    rule.detector.FreeOf '\n' ∧ rule.detector.FreeOf '\r' :=
  freeOf_of_mem_profiles _ (mem_profiles_of_mem_profileFor listed) rule listed

/-- The rules of a profile have different identifiers, also where the catalog lists none. -/
theorem nodup_profileFor (extension : String) : ((profileFor extension).map (·.id)).Nodup := by
  rcases profileFor_cases extension with none | known
  · rw [none]
    exact List.nodup_nil
  · exact nodup_ids _ known

end SourceAudit.Catalog
