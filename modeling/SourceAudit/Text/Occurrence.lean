/-!
# Occurrences in a text

A token occurs in a text when it is a contiguous part of it (`occurs_iff`). What follows its first
occurrence is found in texts of characters and of code points alike.
-/

namespace SourceAudit.Text

variable {α : Type} [BEq α]

/-- Whether a token is a contiguous part of a text. The empty token is part of every text. -/
def occurs (token : List Char) : List Char → Bool
  | [] => token.isEmpty
  | c :: rest => token.isPrefixOf (c :: rest) || occurs token rest

theorem occurs_iff {token text : List Char} : occurs token text = true ↔ token <:+: text := by
  induction text with
  | nil => simp [occurs]
  | cons c rest ih => simp [occurs, ih, List.infix_cons_iff]

/-- The text after the first occurrence of a token, or nothing where there is none. -/
def afterFirst? (token : List α) : List α → Option (List α)
  | [] => if token.isEmpty then some [] else none
  | c :: rest =>
    if token.isPrefixOf (c :: rest) then some ((c :: rest).drop token.length)
    else afterFirst? token rest

/-- The text without a token at its end, where it ends with it. It is taken off once. -/
def dropEnding (token text : List α) : List α :=
  if token.isSuffixOf text then text.take (text.length - token.length) else text

end SourceAudit.Text
