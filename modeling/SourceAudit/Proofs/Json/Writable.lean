import SourceAudit.Proofs.Json.Numbers
import SourceAudit.Proofs.Json.Steps

/-!
# Documents can be written again

No whole number of a document that is read is too long to be written (`writable_of_readDocument`).
The reader refuses a longer one, and it puts no value together from anything but what it has read.
-/

namespace SourceAudit.Json

/-- A value whose whole numbers are all short enough to be written. Every value that has been read
is one, as a reader has the same limit. -/
inductive Writable : Json → Prop
  | null : Writable .null
  | bool (value : Bool) : Writable (.bool value)
  | int {value : Int} (short : Decimal.isWritable value.natAbs = true) : Writable (.int value)
  | float (value : Decimal.Binary64) : Writable (.float value)
  | str (value : LooseText) : Writable (.str value)
  | arr {items : List Json} (each : ∀ item ∈ items, Writable item) : Writable (.arr items)
  | obj {members : Members} (each : ∀ member ∈ members, Writable member.2) : Writable (.obj members)

variable {marks : Marks} {rest text : List Char} {value : Json}

theorem writable_of_readScalar (read : readScalar text = .ok (value, rest)) : Writable value := by
  unfold readScalar at read
  split at read
  next word meaning found =>
    have listed : (word, meaning) ∈ words := List.mem_of_find?_eq_some found
    cases read
    simp only [words, List.mem_cons, Prod.mk.injEq, List.not_mem_nil, or_false] at listed
    rcases listed with ⟨-, rfl⟩ | ⟨-, rfl⟩ | ⟨-, rfl⟩ | ⟨-, rfl⟩ | ⟨-, rfl⟩ | ⟨-, rfl⟩
    · exact .null
    · exact .bool true
    · exact .bool false
    · exact .float _
    · exact .float _
    · exact .float _
  next =>
    rcases number_of_readNumber read with ⟨number, rfl, short⟩ | ⟨number, rfl⟩
    · exact .int short
    · exact .float number

/-- Setting a member keeps the others. -/
theorem writable_of_mem_put {members : Members} {name : LooseText} (written : Writable value)
    (each : ∀ member ∈ members, Writable member.2) {member : LooseText × Json}
    (listed : member ∈ members.put name value) : Writable member.2 := by
  unfold Members.put at listed
  split at listed
  next =>
    obtain ⟨old, present, rfl⟩ := List.mem_map.mp listed
    split
    next => exact written
    next => exact each old present
  next =>
    rcases List.mem_append.mp listed with present | added
    · exact each member present
    · rw [List.mem_singleton.mp added]
      exact written

/-- What is read with a number of steps is writable. The induction is on the steps, for values, items
and members together. -/
theorem writable_of_read (marks : Marks) (steps : Nat) :
    (∀ depth text value rest, readValue marks steps depth text = .ok (value, rest) → Writable value) ∧
    (∀ depth done text value rest, (∀ item ∈ done, Writable item) →
      readItems marks steps depth done text = .ok (value, rest) → Writable value) ∧
    (∀ depth done text value rest, (∀ member ∈ done, Writable member.2) →
      readMembers marks steps depth done text = .ok (value, rest) → Writable value) := by
  induction steps with
  | zero =>
      refine ⟨?_, ?_, ?_⟩
      · intro depth text value rest read
        cases read
      · intro depth done text value rest _ read
        cases read
      · intro depth done text value rest _ read
        cases read
  | succ steps ih =>
      obtain ⟨ofValue, ofItems, ofMembers⟩ := ih
      refine ⟨?_, ?_, ?_⟩
      · intro depth text value rest read
        rcases readValue_cases read with
          ⟨text, rfl⟩ | ⟨_, _, rfl, rfl, ⟨-, rfl⟩ | list⟩ | ⟨_, _, rfl, rfl, ⟨-, rfl⟩ | object⟩ | scalar
        · exact .str text
        · exact .arr fun item member => nomatch member
        · exact ofItems _ [] _ _ _ (fun item member => nomatch member) list
        · exact .obj fun member listed => nomatch listed
        · exact ofMembers _ [] _ _ _ (fun member listed => nomatch listed) object
        · exact writable_of_readScalar scalar
      · intro depth done text value rest each read
        obtain ⟨item, after, own, following⟩ := readItems_cases read
        have all : ∀ entry ∈ item :: done, Writable entry := by
          intro entry member
          rcases List.mem_cons.mp member with rfl | earlier
          · exact ofValue _ _ _ _ own
          · exact each entry earlier
        rcases following with ⟨-, rfl⟩ | ⟨next, -, others⟩
        · exact .arr fun entry member => all entry (List.mem_reverse.mp member)
        · exact ofItems _ _ _ _ _ all others
      · intro depth done text value rest each read
        obtain ⟨_, after, ⟨-, -, own⟩, following⟩ := readMembers_cases read
        have written := ofValue _ _ _ _ own
        rcases following with ⟨-, rfl⟩ | ⟨next, -, others⟩
        · exact .obj fun entry listed => writable_of_mem_put written each listed
        · exact ofMembers _ _ _ _ _ (fun entry listed => writable_of_mem_put written each listed) others

/-- **What is read from a document can be written.** -/
theorem writable_of_readDocument {depth : Nat} {source : Source}
    (read : readDocument depth source = .ok value) :
    Writable value := by
  unfold readDocument at read
  split at read
  next => cases read
  next found _ valueRead =>
    split at read
    next =>
      cases read
      exact (writable_of_read _ _).1 _ _ _ _ valueRead
    next => cases read

/-- The same of a value that is parsed. -/
theorem writable_of_parse {depth : Nat} {source : Source} (parsed : parse depth source = .ok value) :
    Writable value := by
  rw [parse] at parsed
  cases read : readDocument depth source with
  | ok found =>
      rw [read] at parsed
      cases parsed
      exact writable_of_readDocument read
  | error fault =>
      rw [read] at parsed
      cases parsed

end SourceAudit.Json
