import SourceAudit.Validation.Field
import Mathlib.Data.List.Forall2

/-!
# Valid values

What it takes for a check to be passed, for each way in which checks are put together: a record is
valid with the values that its fields are valid with, and a list with those of its items.
-/

namespace SourceAudit.Validation

variable {α β : Type}

namespace Checked

@[simp]
theorem map_eq_valid_iff {f : α → β} {checked : Checked α} {result : β} :
    checked.map f = .valid result ↔ ∃ value, checked = .valid value ∧ f value = result := by
  cases checked with
  | valid value => simp [map]
  | invalid issues => simp [map]

@[simp]
theorem andThen_eq_valid_iff {checked : Checked α} {next : α → Checked β} {result : β} :
    checked.andThen next = .valid result ↔
      ∃ value, checked = .valid value ∧ next value = .valid result := by
  cases checked with
  | valid value => simp [andThen]
  | invalid issues => simp [andThen]

@[simp]
theorem ap_eq_valid_iff {function : Checked (α → β)} {checked : Checked α} {result : β} :
    function.ap checked = .valid result ↔
      ∃ f value, function = .valid f ∧ checked = .valid value ∧ f value = result := by
  cases function with
  | valid f =>
      cases checked with
      | valid value => simp [ap]
      | invalid issues => simp [ap]
  | invalid issues =>
      cases checked with
      | valid value => simp [ap]
      | invalid others => simp [ap]

@[simp]
theorem within_eq_valid_iff {segment : Segment} {checked : Checked α} {value : α} :
    checked.within segment = .valid value ↔ checked = .valid value := by
  cases checked with
  | valid other => simp [within]
  | invalid issues => simp [within]

theorem ofListFrom_eq_valid_iff {index : Nat} {items : List (Checked α)} {values : List α} :
    ofListFrom index items = .valid values ↔
      List.Forall₂ (fun item value => item = .valid value) items values := by
  induction items generalizing index values with
  | nil => simp [ofListFrom, eq_comm]
  | cons item rest ih =>
      simp only [ofListFrom, ap_eq_valid_iff, map_eq_valid_iff, within_eq_valid_iff, ih,
        List.forall₂_cons_left_iff]
      constructor
      · rintro ⟨_, tail, ⟨value, head, rfl⟩, others, rfl⟩
        exact ⟨value, tail, head, others, rfl⟩
      · rintro ⟨value, tail, head, others, rfl⟩
        exact ⟨List.cons value, tail, ⟨value, head, rfl⟩, others, rfl⟩

theorem toExcept_eq_ok_iff {checked : Checked α} {typeName : String} {value : α} :
    checked.toExcept typeName = .ok value ↔ checked = .valid value := by
  cases checked with
  | valid other => simp [toExcept]
  | invalid issues => simp [toExcept]

end Checked

variable {members : Json.Members} {name : String} {check : Json → Checked α}

/-- A required field is valid if it is present and its value is. -/
theorem required_eq_valid_iff {value : α} :
    required members name check = .valid value ↔
      ∃ field, members.get? name = some field ∧ check field = .valid value := by
  unfold required
  split
  next field present => simp [present]
  next absent => simp [absent]

/-- A field with a default is valid if its value is, and if it is absent with the default. -/
theorem withDefault_eq_valid_iff {default value : α} :
    withDefault members name default check = .valid value ↔
      (∃ field, members.get? name = some field ∧ check field = .valid value) ∨
        (members.get? name = none ∧ default = value) := by
  unfold withDefault
  split
  next field present => simp [present]
  next absent => simp [absent]

/-- A list is valid if each of its items is. -/
theorem listOf_eq_valid_iff {value : Json} {values : List α} :
    listOf check value = .valid values ↔
      ∃ items, value = .arr items ∧
        List.Forall₂ (fun item value => check item = .valid value) items values := by
  unfold listOf
  split
  next items =>
    rw [Checked.ofList, Checked.ofListFrom_eq_valid_iff, List.forall₂_map_left_iff]
    constructor
    · exact fun each => ⟨items, rfl, each⟩
    · rintro ⟨_, same, each⟩
      rwa [Json.arr.inj same]
  next notList =>
    constructor
    · intro impossible
      cases impossible
    · rintro ⟨items, same, -⟩
      exact (notList items same).elim

/-- Each value of a valid list is that of one of its items. -/
theorem exists_item_of_listOf {value : Json} {values : List α}
    (valid : listOf check value = .valid values) {result : α} (member : result ∈ values) :
    ∃ items, value = .arr items ∧ ∃ item ∈ items, check item = .valid result := by
  obtain ⟨items, rfl, each⟩ := listOf_eq_valid_iff.mp valid
  refine ⟨items, rfl, ?_⟩
  clear valid
  induction each with
  | nil => cases member
  | cons first _ ih =>
      rcases List.mem_cons.mp member with rfl | later
      · exact ⟨_, List.mem_cons_self, first⟩
      · obtain ⟨item, present, read⟩ := ih later
        exact ⟨item, List.mem_cons_of_mem _ present, read⟩

/-- A member that is found is one of the members. -/
theorem mem_of_get?_eq_some {value : Json} (present : members.get? name = some value) :
    ((name : LooseText), value) ∈ members := by
  rw [Json.Members.get?, Option.map_eq_some_iff] at present
  obtain ⟨member, found, rfl⟩ := present
  have matching := List.find?_some found
  have same : member.1 = name := by simpa using matching
  rw [← same]
  exact List.mem_of_find?_eq_some found

end SourceAudit.Validation
