import Mathlib.Computability.Language

/-!
# Patterns matched by backtracking

A pattern is matched at the start of a text, part by part. Where a part can take more or less of the text
its choices are tried in order, and the next one is tried when what follows cannot be matched;
`Pattern.rests` lists what each choice leaves of the text, in this order. The order decides which match
counts, not which parts of a text can be matched: these are the texts of a language
(`Pattern.mem_rests_iff`). Where a pattern can take one part only, the order is of no account
(`Pattern.head?_rests_eq`), also for what is matched behind it (`Pattern.head?_flatMap_rests`).
-/

namespace SourceAudit.Text

/-- What a text may start with. Only single characters are repeated, greedily if as many as can be are
tried first. -/
inductive Pattern
  | empty
  | one (kind : Char → Bool)
  | run (greedy : Bool) (kind : Char → Bool)
  | either (first second : Pattern)
  | both (first second : Pattern)

namespace Pattern

instance : Append Pattern := ⟨both⟩

/-- What is left of a text when no, one, two and more characters of a kind are taken off it. -/
def afterRuns (kind : Char → Bool) : List Char → List (List Char)
  | [] => [[]]
  | c :: rest => (c :: rest) :: if kind c then afterRuns kind rest else []

/-- What each way of matching a pattern leaves of a text, the way that is tried first in front. A
greedy run tries its longest part first, any other run its shortest. -/
def rests : Pattern → List Char → List (List Char)
  | .empty, text => [text]
  | .one _, [] => []
  | .one kind, c :: rest => if kind c then [rest] else []
  | .run greedy kind, text =>
    if greedy then (afterRuns kind text).reverse else afterRuns kind text
  | .either first second, text => first.rests text ++ second.rests text
  | .both first second, text => (first.rests text).flatMap second.rests

/-- Where the leftmost match starts and ends in the rest of a text, of which `offset` characters have been
passed. -/
def searchFrom (pattern : Pattern) (offset : Nat) : List Char → Option (Nat × Nat)
  | [] => (pattern.rests []).head?.map fun _ => (offset, offset)
  | c :: rest =>
    match (pattern.rests (c :: rest)).head? with
    | some after => some (offset, offset + ((c :: rest).length - after.length))
    | none => searchFrom pattern (offset + 1) rest

/-- Where the leftmost match in a text starts and ends. Where it ends is up to the way that is tried
first. -/
def search (pattern : Pattern) (text : List Char) : Option (Nat × Nat) :=
  pattern.searchFrom 0 text

/-- The text ends here, or has a line feed left and ends then. -/
def isAtEnd (text : List Char) : Bool :=
  text == [] || text == ['\n']

/-- What a group takes of a text in each way of matching what comes before the group, the group, what comes
after it and then the end of the text, the way that is tried first in front. -/
def captures (before group after : Pattern) (text : List Char) : List (List Char) :=
  (before.rests text).flatMap fun opened =>
    (group.rests opened).flatMap fun closing =>
      ((after.rests closing).filter isAtEnd).map fun _ =>
        opened.take (opened.length - closing.length)

/-- The texts that a pattern describes. They do not depend on the order in which the ways of
matching are tried, so that greedy runs are like others here. -/
def language : Pattern → Language Char
  | .empty => 1
  | .one kind => {part | ∃ c, kind c = true ∧ part = [c]}
  | .run _ kind => {part | ∀ c ∈ part, kind c = true}
  | .either first second => first.language + second.language
  | .both first second => first.language * second.language

variable {kind : Char → Bool} {greedy : Bool} {first second pattern : Pattern}
  {part text rest : List Char}

@[simp]
theorem mem_language_empty : part ∈ Pattern.empty.language ↔ part = [] := Iff.rfl

@[simp]
theorem mem_language_one : part ∈ (Pattern.one kind).language ↔ ∃ c, kind c = true ∧ part = [c] :=
  Iff.rfl

@[simp]
theorem mem_language_run : part ∈ (Pattern.run greedy kind).language ↔ ∀ c ∈ part, kind c = true :=
  Iff.rfl

@[simp]
theorem mem_language_either :
    part ∈ (Pattern.either first second).language ↔
      part ∈ first.language ∨ part ∈ second.language := Iff.rfl

@[simp]
theorem mem_language_append :
    part ∈ (first ++ second).language ↔
      ∃ front ∈ first.language, ∃ back ∈ second.language, part = front ++ back := by
  change part ∈ first.language * second.language ↔ _
  simp only [Language.mem_mul, eq_comm]

theorem mem_afterRuns_iff :
    rest ∈ afterRuns kind text ↔ ∃ run, (∀ c ∈ run, kind c = true) ∧ text = run ++ rest := by
  induction text with
  | nil =>
      rw [afterRuns, List.mem_singleton]
      constructor
      · rintro rfl
        exact ⟨[], by simp, rfl⟩
      · rintro ⟨run, -, split⟩
        exact (List.append_eq_nil_iff.mp split.symm).2
  | cons c later ih =>
      rw [afterRuns, List.mem_cons]
      constructor
      · rintro (rfl | member)
        · exact ⟨[], by simp, rfl⟩
        · split at member
          next passes =>
            obtain ⟨run, within, rfl⟩ := ih.mp member
            exact ⟨c :: run, List.forall_mem_cons.mpr ⟨passes, within⟩, rfl⟩
          next => cases member
      · rintro ⟨run, within, split⟩
        cases run with
        | nil => exact .inl split.symm
        | cons d run =>
            rw [List.cons_append, List.cons.injEq] at split
            obtain ⟨rfl, split⟩ := split
            obtain ⟨passes, within⟩ := List.forall_mem_cons.mp within
            rw [if_pos passes]
            exact .inr (ih.mpr ⟨run, within, split⟩)

/-- **The ways of matching a pattern take the parts that it describes.** -/
theorem mem_rests_iff :
    rest ∈ pattern.rests text ↔ ∃ part ∈ pattern.language, text = part ++ rest := by
  induction pattern generalizing text rest with
  | empty => simp [rests, eq_comm]
  | one kind =>
      constructor
      · intro member
        cases text with
        | nil => cases member
        | cons c later =>
            rw [rests] at member
            split at member
            next passes =>
              rw [List.mem_singleton] at member
              subst member
              exact ⟨[c], ⟨c, passes, rfl⟩, rfl⟩
            next => cases member
      · rintro ⟨_, ⟨c, passes, rfl⟩, rfl⟩
        rw [List.singleton_append, rests, if_pos passes]
        exact List.mem_singleton_self rest
  | run greedy kind =>
      have ordered : rest ∈ (Pattern.run greedy kind).rests text ↔ rest ∈ afterRuns kind text := by
        rw [rests]
        split
        next => exact List.mem_reverse
        next => rfl
      rw [ordered]
      exact mem_afterRuns_iff
  | either first second left right =>
      rw [rests, List.mem_append, left, right]
      simp only [mem_language_either, or_and_right, exists_or]
  | both first second left right =>
      simp only [rests, List.mem_flatMap, left, right]
      constructor
      · rintro ⟨_, ⟨front, inFirst, rfl⟩, back, inSecond, rfl⟩
        exact ⟨front ++ back, mem_language_append.mpr ⟨front, inFirst, back, inSecond, rfl⟩,
          (List.append_assoc front back rest).symm⟩
      · rintro ⟨_, inBoth, rfl⟩
        obtain ⟨front, inFirst, back, inSecond, rfl⟩ := mem_language_append.mp inBoth
        exact ⟨back ++ rest, ⟨front, inFirst, List.append_assoc front back rest⟩, back, inSecond, rfl⟩

/-- What can be matched in one way only is matched so first. -/
theorem head?_rests_eq {after : Option (List Char)}
    (only : ∀ rest, rest ∈ pattern.rests text ↔ after = some rest) :
    (pattern.rests text).head? = after := by
  cases tried : pattern.rests text with
  | nil =>
      rw [tried] at only
      cases after with
      | none => rfl
      | some rest => cases (only rest).mpr rfl
  | cons rest others =>
      rw [tried] at only
      exact ((only rest).mp List.mem_cons_self).symm

/-- Where what comes first can be matched in one way only, another way of matching it does not help. -/
theorem head?_flatMap_rests {α : Type} {after : Option (List Char)}
    (only : ∀ rest, rest ∈ pattern.rests text ↔ after = some rest) (next : List Char → List α) :
    ((pattern.rests text).flatMap next).head? = after.bind fun rest => (next rest).head? := by
  rw [List.head?_flatMap, ← head?_rests_eq only]
  cases tried : pattern.rests text with
  | nil => rfl
  | cons first others =>
      rw [List.head?_cons, Option.bind_some, List.findSome?_cons]
      cases found : (next first).head? with
      | some value => rfl
      | none =>
          rw [tried] at only
          have start := (only first).mp List.mem_cons_self
          rw [List.findSome?_eq_none_iff]
          intro other member
          have same := (only other).mp (List.mem_cons_of_mem first member)
          rw [start, Option.some.injEq] at same
          rw [← same, found]

end Pattern

end SourceAudit.Text
