import SourceAudit.Proofs.Json.RoundTrip

/-!
# Indented documents line by line

An indented document has a line for each scalar, for each group without parts and for each bracket of
another group, and every line starts with two blanks for each group around it. `page` lists these lines; they
are what is written (`write_indented`).
-/

namespace SourceAudit.Json

/-- The blanks that a line at a level starts with. -/
def indentation (level : Nat) : List Char :=
  List.replicate (2 * level) ' '

/-- The comma behind a part, if others follow it. -/
def commaBefore {α : Type} (others : List α) : List Char :=
  if others.isEmpty then [] else [',']

/-- The lines of a group. Brackets with nothing between them share a line, others have a line each. -/
def pageGroup (level : Nat) (front after : List Char) (opening closing : Char)
    (inner : List (List Char)) : List (List Char) :=
  if inner.isEmpty then [indentation level ++ front ++ opening :: closing :: after]
  else (indentation level ++ front ++ [opening]) :: inner ++ [indentation level ++ closing :: after]

mutual

/-- The lines of a value at a level, with what stands before it on the first line and after it on the last
one. -/
def page (level : Nat) (front after : List Char) : Json → List (List Char)
  | .arr items => pageGroup level front after '[' ']' (pageItems (level + 1) items)
  | .obj members => pageGroup level front after '\x7b' '\x7d' (pageMembers (level + 1) members)
  | scalar => [indentation level ++ front ++ write .indented level scalar ++ after]

/-- The lines of the items of an array. -/
def pageItems (level : Nat) : List Json → List (List Char)
  | [] => []
  | item :: rest => page level [] (commaBefore rest) item ++ pageItems level rest

/-- The lines of the members of an object. -/
def pageMembers (level : Nat) : List (LooseText × Json) → List (List Char)
  | [] => []
  | (name, value) :: rest =>
    page level (writeString true name ++ [':', ' ']) (commaBefore rest) value ++ pageMembers level rest

end

/-- Lines, each of them after a line feed. -/
def broken (lines : List (List Char)) : List Char :=
  lines.flatMap ('\n' :: ·)

theorem broken_append (first second : List (List Char)) :
    broken (first ++ second) = broken first ++ broken second :=
  List.flatMap_append

theorem lineBreak_indented (level : Nat) :
    Layout.indented.lineBreak level = '\n' :: indentation level := rfl

/-- The parts of a group as they are written, each on lines of its own. -/
def brokenParts (level : Nat) : List (List Char) → List Char
  | [] => []
  | part :: rest => '\n' :: indentation level ++ part ++ commaBefore rest ++ brokenParts level rest

theorem writeGroup_indented (level : Nat) (opening closing : Char) (parts : List (List Char)) :
    writeGroup .indented level opening closing parts =
      opening :: brokenParts (level + 1) parts ++
        (if parts.isEmpty then [closing] else '\n' :: indentation level ++ [closing]) := by
  have following (first : List Char) (others : List (List Char)) :
      brokenParts (level + 1) (first :: others) = '\n' :: indentation (level + 1) ++ first ++
        others.flatMap (',' :: ('\n' :: indentation (level + 1)) ++ ·) := by
    induction others generalizing first with
    | nil => simp [brokenParts, commaBefore]
    | cons next others ih =>
        rw [brokenParts, ih, List.flatMap_cons]
        simp [commaBefore]
  cases parts with
  | nil => rfl
  | cons first others =>
      rw [writeGroup_cons, following, lineBreak_indented, lineBreak_indented]
      simp [Layout.indented]

theorem commaBefore_map {α β : Type} (f : α → β) (others : List α) :
    commaBefore (others.map f) = commaBefore others := by
  rw [commaBefore, commaBefore, List.isEmpty_map]

/-- The lines of a group are the group as it is written, if those between its brackets are its parts. -/
theorem broken_pageGroup {level : Nat} {front after : List Char} {opening closing : Char}
    {inner parts : List (List Char)} (same : broken inner = brokenParts (level + 1) parts) :
    broken (pageGroup level front after opening closing inner) =
      '\n' :: (indentation level ++ front ++
        (writeGroup .indented level opening closing parts ++ after)) := by
  rw [pageGroup, writeGroup_indented, ← same]
  cases inner with
  | nil =>
      cases parts with
      | nil => simp [broken]
      | cons part rest => cases same
  | cons line inner =>
      cases parts with
      | nil => cases same
      | cons part rest => simp [broken]

mutual

/-- The lines of a value are the value as it is written, with what stands before it and after it. -/
theorem broken_page (level : Nat) (front after : List Char) : (value : Json) →
    broken (page level front after value) =
      '\n' :: (indentation level ++ front ++ (write .indented level value ++ after))
  | .arr items => by
      rw [page, write]
      exact broken_pageGroup (broken_pageItems (level + 1) items)
  | .obj members => by
      rw [page, write]
      exact broken_pageGroup (broken_pageMembers (level + 1) members)
  | .null => by simp [page, broken]
  | .bool value => by simp [page, broken]
  | .int value => by simp [page, broken]
  | .float value => by simp [page, broken]
  | .str value => by simp [page, broken]

theorem broken_pageItems (level : Nat) : (items : List Json) →
    broken (pageItems level items) = brokenParts level (writeItems .indented level items)
  | [] => rfl
  | item :: rest => by
      have comma : commaBefore (writeItems .indented level rest) = commaBefore rest := by
        rw [writeItems_eq_map, commaBefore_map]
      rw [pageItems, broken_append, broken_page level [] (commaBefore rest) item,
        broken_pageItems level rest, writeItems, brokenParts, comma]
      simp

theorem broken_pageMembers (level : Nat) : (members : List (LooseText × Json)) →
    broken (pageMembers level members) = brokenParts level (writeMembers .indented level members)
  | [] => rfl
  | (name, value) :: rest => by
      have comma : commaBefore (writeMembers .indented level rest) = commaBefore rest := by
        rw [writeMembers_eq_map, commaBefore_map]
      rw [pageMembers, broken_append, broken_page level _ (commaBefore rest) value,
        broken_pageMembers level rest, writeMembers, brokenParts, comma]
      simp [Layout.indented]

end

/-- **An indented document is written line by line.** -/
theorem write_indented (value : Json) :
    write .indented 0 value = List.intercalate ['\n'] (page 0 [] [] value) := by
  have written := broken_page 0 [] [] value
  cases lines : page 0 [] [] value with
  | nil =>
      rw [lines] at written
      cases written
  | cons first others =>
      rw [lines] at written
      have rest : first ++ others.flatMap (['\n'] ++ ·) = write .indented 0 value ++ [] :=
        (List.cons.inj written).2
      rw [intercalate_eq_flatMap, rest, List.append_nil]

example :
    page 0 [] [] (.arr [.obj [("id", .str "a"), ("findings", .arr [])], .null]) =
      ["[".toList,
        "  \x7b".toList,
        "    \"id\": \"a\",".toList,
        "    \"findings\": []".toList,
        "  \x7d,".toList,
        "  null".toList,
        "]".toList] := by
  decide +kernel

end SourceAudit.Json
