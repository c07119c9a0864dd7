import SourceAudit.Proofs.Json.Numbers
import SourceAudit.Proofs.Json.Steps

/-!
# Members that share a name

An object can be typed with more than one member of a name (`TypedObject`). The reader sets the members one
after the other, so of those that share a name the last one counts (`get?_of_typed`).
-/

namespace SourceAudit.Json

/-- Members as they are typed, with commas between them and a brace after the last one. The numbers
bound the steps and the nesting, as in the reader. -/
inductive TypedMembers (marks : Marks) (depth : Nat) : Nat → List Char → Members → List Char → Prop
  | last {steps : Nat} {text after rest : List Char} {member : LooseText × Json}
      (typed : TypedMember marks steps depth text member after) (close : skipSpace after = '\x7d' :: rest) :
      TypedMembers marks depth (steps + 1) text [member] rest
  | more {steps : Nat} {text after next rest : List Char} {member : LooseText × Json} {members : Members}
      (typed : TypedMember marks steps depth text member after) (comma : skipSpace after = ',' :: next)
      (others : TypedMembers marks depth steps (skipSpace next) members rest) :
      TypedMembers marks depth (steps + 1) text (member :: members) rest

/-- An object as it is typed, with all of its members. -/
inductive TypedObject (marks : Marks) : Nat → Nat → List Char → Members → List Char → Prop
  | empty {steps depth : Nat} {inner rest : List Char} (close : skipSpace inner = '\x7d' :: rest) :
      TypedObject marks (steps + 1) (depth + 1) ('\x7b' :: inner) [] rest
  | listed {steps depth : Nat} {inner rest : List Char} {typed : Members}
      (members : TypedMembers marks depth steps (skipSpace inner) typed rest) :
      TypedObject marks (steps + 1) (depth + 1) ('\x7b' :: inner) typed rest

/-- Members with others set in them, one after the other, so that of several with one name the last
counts. -/
def Members.putAll (members typed : Members) : Members :=
  typed.foldl (fun done member => done.put member.1 member.2) members

variable {marks : Marks} {members typed : Members} {name : LooseText} {value : Json} {text rest : List Char}
  {steps depth : Nat}

namespace Members

theorem get?_cons (member : LooseText × Json) (members : Members) (name : LooseText) :
    get? (member :: members) name = if member.1 = name then some member.2 else get? members name := by
  rw [get?, List.find?_cons]
  by_cases same : member.1 = name
  · rw [if_pos same, beq_iff_eq.mpr same]
    rfl
  · rw [if_neg same, beq_eq_false_iff_ne.mpr same]
    rfl

theorem get?_append (first second : Members) (name : LooseText) :
    get? (first ++ second) name = (get? first name).or (get? second name) := by
  rw [get?, List.find?_append]
  cases found : first.find? (·.1 == name) <;> simp [get?, found]

theorem isSome_get?_iff : (get? members name).isSome ↔ members.any (·.1 == name) = true := by
  rw [get?, Option.isSome_map, List.find?_isSome, List.any_eq_true]

/-- Where members of a name take a new value, the others keep theirs. -/
theorem get?_map_replace (members : Members) (name other : LooseText) (value : Json) :
    get? (members.map fun member => if member.1 == name then (name, value) else member) other =
      if name = other then (get? members other).map fun _ => value else get? members other := by
  induction members with
  | nil => simp [get?]
  | cons member rest ih =>
      rw [List.map_cons, get?_cons, get?_cons, ih]
      by_cases same : member.1 = name
      · rw [if_pos (beq_iff_eq.mpr same), same]
        by_cases asked : name = other <;> simp [asked]
      · rw [if_neg (mt beq_iff_eq.mp same)]
        by_cases asked : name = other
        · simp [asked, asked ▸ same]
        · simp [asked]

/-- The member that is set has the new value, and the others keep theirs. -/
theorem get?_put (members : Members) (name other : LooseText) (value : Json) :
    (members.put name value).get? other = if name = other then some value else members.get? other := by
  rw [put]
  split
  next present =>
    rw [get?_map_replace]
    split
    next same =>
      obtain ⟨old, found⟩ := Option.isSome_iff_exists.mp (isSome_get?_iff.mpr present)
      rw [← same, found, Option.map_some]
    next => rfl
  next absent =>
    rw [← isSome_get?_iff, Bool.not_eq_true, Option.isSome_eq_false_iff, Option.isNone_iff_eq_none] at absent
    rw [get?_append, get?_cons]
    split
    next same => rw [← same, absent, Option.none_or]
    next => rw [show get? [] other = none from rfl, Option.or_none]

/-- Of the members that are set one after the other, the last of a name counts. -/
theorem get?_putAll (members typed : Members) (name : LooseText) :
    (members.putAll typed).get? name = (get? typed.reverse name).or (members.get? name) := by
  induction typed generalizing members with
  | nil => rfl
  | cons member typed ih =>
      rw [putAll, List.foldl_cons, ← putAll, ih, get?_put, List.reverse_cons, get?_append, get?_cons,
        Option.or_assoc]
      split <;> rfl

end Members

/-- Members are read by setting what is typed, from the first member to the last. -/
theorem typed_of_readMembers (read : readMembers marks steps depth members text = .ok (value, rest)) :
    ∃ typed, TypedMembers marks depth steps text typed rest ∧ value = .obj (members.putAll typed) := by
  induction steps generalizing members text with
  | zero => cases read
  | succ steps ih =>
      obtain ⟨member, after, own, ⟨close, rfl⟩ | ⟨next, comma, others⟩⟩ := readMembers_cases read
      · exact ⟨[member], .last own close, rfl⟩
      · obtain ⟨typed, listed, rfl⟩ := ih others
        exact ⟨member :: typed, .more own comma listed, rfl⟩

theorem readItems_ne_obj {done : List Json} :
    readItems marks steps depth done text ≠ .ok (.obj members, rest) := by
  intro read
  induction steps generalizing done text with
  | zero => cases read
  | succ steps ih =>
      obtain ⟨item, after, -, ⟨-, same⟩ | ⟨next, -, others⟩⟩ := readItems_cases read
      · cases same
      · exact ih others

theorem readScalar_ne_obj : readScalar text ≠ .ok (.obj members, rest) := by
  intro read
  unfold readScalar at read
  split at read
  next word meaning found =>
    have listed : (word, meaning) ∈ words := List.mem_of_find?_eq_some found
    cases read
    simp [words] at listed
  next =>
    rcases number_of_readNumber read with ⟨number, same, -⟩ | ⟨number, same⟩
    · cases same
    · cases same

/-- **Of the members that share a name the last one counts.** An object that is read was typed with some
members, and has for each name the value of the last of them. -/
theorem get?_of_typed (read : readValue marks steps depth text = .ok (.obj members, rest)) :
    ∃ typed, TypedObject marks steps depth text typed rest ∧
      ∀ name, members.get? name = Members.get? typed.reverse name := by
  obtain _ | steps := steps
  · cases read
  rcases readValue_cases read with
    ⟨_, same⟩ | ⟨inner, inside, rfl, rfl, ⟨-, same⟩ | list⟩ |
    ⟨inner, inside, rfl, rfl, ⟨close, same⟩ | object⟩ | scalar
  · cases same
  · cases same
  · exact (readItems_ne_obj list).elim
  · cases same
    exact ⟨[], .empty close, fun name => rfl⟩
  · obtain ⟨typed, listed, same⟩ := typed_of_readMembers object
    cases same
    refine ⟨typed, .listed listed, fun name => ?_⟩
    exact (Members.get?_putAll [] typed name).trans Option.or_none
  · exact (readScalar_ne_obj scalar).elim

end SourceAudit.Json
