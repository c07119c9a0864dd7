import SourceAudit.Json.Parser

/-!
# The steps of the reader

What the reader has read, it has read in one of a few ways: a value is a string, a list, an object or a
scalar (`readValue_cases`); an item or a member is read by itself, and then the others or the closing bracket
(`readItems_cases`, `readMembers_cases`). Whatever holds of all that is read follows from these by induction
on the steps.
-/

namespace SourceAudit.Json

variable {marks : Marks} {steps depth : Nat} {text rest : List Char} {value : Json} {items : List Json}
  {members : Members}

/-- One member as it is typed: a name in quotes, a colon and a value, and the text after it. -/
inductive TypedMember (marks : Marks) (steps depth : Nat) :
    List Char → LooseText × Json → List Char → Prop
  | intro {quoted afterName afterColon after : List Char} {name : LooseText} {value : Json}
      (named : readString marks (quoted.length + 1) quoted = .ok (name, afterName))
      (colon : skipSpace afterName = ':' :: afterColon)
      (typed : readValue marks steps depth (skipSpace afterColon) = .ok (value, after)) :
      TypedMember marks steps depth ('"' :: quoted) (name, value) after

/-- A value is read by its first character. -/
theorem readValue_cases (read : readValue marks (steps + 1) depth text = .ok (value, rest)) :
    (∃ text, value = .str text) ∨
      (∃ inner inside, text = '[' :: inner ∧ depth = inside + 1 ∧
        (skipSpace inner = ']' :: rest ∧ value = .arr [] ∨
          readItems marks steps inside [] (skipSpace inner) = .ok (value, rest))) ∨
      (∃ inner inside, text = '\x7b' :: inner ∧ depth = inside + 1 ∧
        (skipSpace inner = '\x7d' :: rest ∧ value = .obj [] ∨
          readMembers marks steps inside [] (skipSpace inner) = .ok (value, rest))) ∨
      readScalar text = .ok (value, rest) := by
  rw [readValue.eq_def] at read
  simp only at read
  split at read
  next =>
    split at read
    next => cases read
    next text _ _ =>
      cases read
      exact .inl ⟨text, rfl⟩
  next inner =>
    obtain _ | inside := depth
    · cases read
    rw [if_neg (Nat.succ_ne_zero inside)] at read
    refine .inr (.inl ⟨inner, inside, rfl, rfl, ?_⟩)
    split at read
    next close =>
      cases read
      exact .inl ⟨close, rfl⟩
    next => exact .inr read
  next inner =>
    obtain _ | inside := depth
    · cases read
    rw [if_neg (Nat.succ_ne_zero inside)] at read
    refine .inr (.inr (.inl ⟨inner, inside, rfl, rfl, ?_⟩))
    split at read
    next close =>
      cases read
      exact .inl ⟨close, rfl⟩
    next => exact .inr read
  next => exact .inr (.inr (.inr read))

/-- An item is read, and then the others or the end of the list. -/
theorem readItems_cases (read : readItems marks (steps + 1) depth items text = .ok (value, rest)) :
    ∃ item after, readValue marks steps depth text = .ok (item, after) ∧
      (skipSpace after = ']' :: rest ∧ value = .arr (item :: items).reverse ∨
        ∃ next, skipSpace after = ',' :: next ∧
          readItems marks steps depth (item :: items) (skipSpace next) = .ok (value, rest)) := by
  rw [readItems] at read
  split at read
  next => cases read
  next item after own =>
    refine ⟨item, after, own, ?_⟩
    split at read
    next next comma => exact .inr ⟨next, comma, read⟩
    next close =>
      cases read
      exact .inl ⟨close, rfl⟩
    next => cases read

/-- A member is read, and then the others or the end of the object. -/
theorem readMembers_cases (read : readMembers marks (steps + 1) depth members text = .ok (value, rest)) :
    ∃ member after, TypedMember marks steps depth text member after ∧
      (skipSpace after = '\x7d' :: rest ∧ value = .obj (members.put member.1 member.2) ∨
        ∃ next, skipSpace after = ',' :: next ∧
          readMembers marks steps depth (members.put member.1 member.2) (skipSpace next) =
            .ok (value, rest)) := by
  rw [readMembers.eq_def] at read
  simp only at read
  split at read
  next quoted =>
    split at read
    next => cases read
    next name afterName named =>
      split at read
      next afterColon colon =>
        split at read
        next => cases read
        next member after memberRead =>
          refine ⟨_, after, .intro named colon memberRead, ?_⟩
          split at read
          next next comma => exact .inr ⟨next, comma, read⟩
          next close =>
            cases read
            exact .inl ⟨close, rfl⟩
          next => cases read
      next => cases read
  next => cases read

end SourceAudit.Json
