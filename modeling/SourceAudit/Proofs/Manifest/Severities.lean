import SourceAudit.Manifest
import SourceAudit.Proofs.Decimal.Digits
import SourceAudit.Proofs.Report.Selection
import SourceAudit.Proofs.Text.Letters
import SourceAudit.Proofs.Text.Loose

/-!
# The severities that a manifest names

A manifest asks for severities by a list of names, each spelled in capital or small letters of ASCII
(`Json.Names`). Its elements are looked up in lower case and as they show, which makes no name of anything
else (`severityText_eq_iff`): what a number, an array or an object shows holds a character that is no
letter, null, truth and the special numbers show other words (`Json.not_spells_quoted`), and the letters of
the names are not the lower case of a character beyond ASCII (`Severity.lower_eq_name_iff`).
-/

namespace SourceAudit

/-- A text spells the name of a severity, in capital or small letters of ASCII. No other character
has a lower case that is a letter of one of the names. -/
def Severity.Spells (text : List Char) (severity : Severity) : Prop :=
  text.map Char.toLower = severity.name.toList

/-- A value names a severity: it is a string that spells its name. No value of another kind shows as
such a text. -/
inductive Json.Names : Json → Severity → Prop
  | intro {text : String} {severity : Severity} (spells : Severity.Spells text.toList severity) :
      Names (.str text) severity

/-- A string in small letters of ASCII; any other value as it is. -/
def Json.inSmallLetters : Json → Json
  | .str (.unicode text) => .str (String.ofList (text.toList.map Char.toLower))
  | value => value

namespace Severity

variable {severity : Severity} {text : List Char} {c : Char}

instance (text : List Char) (severity : Severity) : Decidable (Spells text severity) :=
  inferInstanceAs (Decidable (_ = _))

theorem isPlainLetter_name (severity : Severity) :
    ∀ c ∈ severity.name.toList, Text.IsPlainLetter c := by
  have plain : (severity.name.toList.all fun c => decide (Text.IsPlainLetter c)) = true := by
    cases severity <;> decide
  exact fun c member => of_decide_eq_true (List.all_eq_true.mp plain c member)

/-- The lower case of a text is the name of a severity if the text spells it. -/
theorem lower_eq_name_iff : Text.lower text = severity.name.toList ↔ Spells text severity :=
  Text.lower_eq_iff (isPlainLetter_name severity)

/-- What spells a name is made of letters. -/
theorem not_spells_of_mem (member : c ∈ text) (other : ¬ Text.IsLetter c) :
    ¬ Spells text severity := by
  intro spells
  have plain := isPlainLetter_name severity c.toLower (spells ▸ List.mem_map_of_mem member)
  exact other (Text.isLetter_of_toLower plain)

end Severity

namespace Decimal

/-- A numeral shows a digit. -/
theorem exists_digit_mem_intText (number : Int) :
    ∃ c ∈ (intText number).toList, ¬ Text.IsLetter c := by
  have digit (n : Nat) : ∃ c ∈ (natText n).toList, ¬ Text.IsLetter c := by
    obtain ⟨first, tail, split, isDigit⟩ := exists_toDigits_cons n
    refine ⟨first, ?_, ?_⟩
    · rw [natText, String.toList_ofList, split]
      exact List.mem_cons_self
    · have below : first.toNat ≤ 57 := (Char.isDigit_iff_toNat.mp isDigit).2
      rw [Text.IsLetter]
      omega
  cases number with
  | ofNat n => exact digit n
  | negSucc n =>
      obtain ⟨c, member, other⟩ := digit (n + 1)
      refine ⟨c, ?_, other⟩
      rw [intText, String.toList_append]
      exact List.mem_append_right _ member

theorem point_mem_placePoint (digits : List Char) (places : Int) : '.' ∈ placePoint digits places := by
  unfold placePoint
  split
  · simp
  · dsimp only
    split <;> simp

/-- A number that is written with a point or with an exponent shows the point, or the sign of the
exponent. -/
theorem Scientific.exists_mark_mem_text (style : NumberStyle) (number : Scientific) :
    ∃ c ∈ number.text style, ¬ Text.IsLetter c := by
  unfold Scientific.text
  dsimp only
  split
  · exact ⟨'.', point_mem_placePoint _ _, by decide⟩
  · refine ⟨_, List.mem_append_right _ (List.mem_cons_of_mem 'e' List.mem_cons_self), ?_⟩
    split <;> decide

/-- A finite number shows a mark that is no letter. -/
theorem Binary64.exists_mark_mem_text (negative : Bool) (mantissa : Nat) (exponent : Int) :
    ∃ c ∈ (Binary64.finite negative mantissa exponent).text.toList, ¬ Text.IsLetter c := by
  obtain ⟨c, member, other⟩ : ∃ c ∈ if mantissa = 0 then ['0', '.', '0']
      else (shortest mantissa exponent).text plainStyle, ¬ Text.IsLetter c := by
    split
    · exact ⟨'.', by decide, by decide⟩
    · exact Scientific.exists_mark_mem_text plainStyle _
  refine ⟨c, ?_, other⟩
  simp only [Binary64.text, String.toList_ofList]
  split
  · exact List.mem_cons_of_mem '-' member
  · exact member

end Decimal

namespace Json

variable {item : Json} {severity : Severity}

/-- Nothing but a string shows as the name of a severity. -/
theorem not_spells_quoted (severity : Severity) (other : ∀ text, item ≠ .str text) :
    ¬ Severity.Spells item.quoted.toList severity := by
  rw [quoted, String.toList_ofList]
  cases item with
  | null => cases severity <;> decide
  | bool value => cases value <;> cases severity <;> decide
  | int number =>
      obtain ⟨c, member, mark⟩ := Decimal.exists_digit_mem_intText number
      exact Severity.not_spells_of_mem member mark
  | float number =>
      cases number with
      | nan => cases severity <;> decide
      | infinite negative => cases negative <;> cases severity <;> decide
      | finite negative mantissa exponent =>
          obtain ⟨c, member, mark⟩ :=
            Decimal.Binary64.exists_mark_mem_text negative mantissa exponent
          exact Severity.not_spells_of_mem member mark
  | str text => exact (other text rfl).elim
  | arr items =>
      exact Severity.not_spells_of_mem (List.mem_cons_self : '[' ∈ _) (by decide)
  | obj members =>
      exact Severity.not_spells_of_mem (List.mem_cons_self : '\x7b' ∈ _) (by decide)

end Json

namespace Manifest

variable {items : List Json} {item : Json} {severity : Severity}

/-- A text in lower case is the name of a severity if it is a string that spells it: a surrogate stays. -/
theorem lower_eq_name_iff {text : LooseText} :
    text.lower = severity.name ↔
      ∃ plain : String, text = plain ∧ Severity.Spells plain.toList severity := by
  obtain ⟨head, tail⟩ := text
  rw [LooseText.lower, LooseText.mapParts, LooseText.mk.injEq, List.map_eq_nil_iff,
    ← String.toList_inj, String.toList_ofList, Severity.lower_eq_name_iff]
  constructor
  · rintro ⟨spells, rfl⟩
    exact ⟨head, rfl, spells⟩
  · rintro ⟨plain, same, spells⟩
    cases same
    exact ⟨spells, rfl⟩

/-- An element is looked up under the name of a severity exactly when it names the severity. -/
theorem severityText_eq_iff : severityText item = .str severity.name ↔ item.Names severity := by
  rw [severityText, Json.str.injEq, lower_eq_name_iff]
  have other (shown : item.display = item.quoted) (plain : ∀ text, item ≠ .str text) :
      (∃ plain : String, item.display = plain ∧ Severity.Spells plain.toList severity) ↔
        item.Names severity := by
    refine iff_of_false ?_ ?_
    · rintro ⟨text, same, spells⟩
      rw [shown, LooseText.unicode_inj] at same
      exact Json.not_spells_quoted severity plain (same ▸ spells)
    · rintro ⟨-⟩
      exact plain _ rfl
  cases item with
  | str text =>
      constructor
      · rintro ⟨plain, same, spells⟩
        rw [Json.display] at same
        rw [same]
        exact .intro spells
      · rintro ⟨spells⟩
        exact ⟨_, rfl, spells⟩
  | null => exact other rfl nofun
  | bool value => exact other rfl nofun
  | int number => exact other rfl nofun
  | float number => exact other rfl nofun
  | arr items => exact other rfl nofun
  | obj members => exact other rfl nofun

/-- A value that names a severity is in small letters the name of it. -/
theorem inSmallLetters_of_names (names : item.Names severity) :
    item.inSmallLetters = .str severity.name := by
  obtain ⟨spells⟩ := names
  rw [Json.inSmallLetters, spells, String.ofList_toList]

/-- The elements of a list are looked up under the names of severities exactly when they name them. -/
theorem listOfJson_severityText_iff {named : List Severity} :
    Severity.listOfJson (items.map severityText) = .ok named ↔ List.Forall₂ Json.Names items named := by
  rw [Severity.listOfJson_eq_ok_iff, List.forall₂_map_left_iff]
  simp only [severityText_eq_iff]

/-- There is a list of severities that the items name if each of them names one. -/
theorem exists_forall₂_names :
    (∃ named, List.Forall₂ Json.Names items named) ↔ ∀ item ∈ items, ∃ severity, item.Names severity := by
  induction items with
  | nil => exact iff_of_true ⟨[], .nil⟩ (List.forall_mem_nil _)
  | cons item rest ih =>
      rw [List.forall_mem_cons, ← ih]
      constructor
      · rintro ⟨named, both⟩
        obtain ⟨severity, others, names, rest', -⟩ := List.forall₂_cons_left_iff.mp both
        exact ⟨⟨severity, names⟩, others, rest'⟩
      · rintro ⟨⟨severity, names⟩, others, rest'⟩
        exact ⟨severity :: others, .cons names rest'⟩

theorem severities_arr_eq_ok_iff {selection : Severity.Selection} :
    severities (some (.arr items)) = .ok selection ↔
      ∃ named, selection = some named ∧ List.Forall₂ Json.Names items named := by
  rw [severities]
  cases listed : Severity.listOfJson (items.map severityText) with
  | error error =>
      refine iff_of_false nofun ?_
      rintro ⟨named, -, names⟩
      rw [listOfJson_severityText_iff.mpr names] at listed
      cases listed
  | ok found =>
      rw [Except.ok.injEq]
      constructor
      · rintro rfl
        exact ⟨found, rfl, listOfJson_severityText_iff.mp listed⟩
      · rintro ⟨named, rfl, names⟩
        rw [listOfJson_severityText_iff.mpr names, Except.ok.injEq] at listed
        rw [listed]

/-- The names in small letters select what the manifest asks for. -/
theorem ofJson_inSmallLetters {named : List Severity} (names : List.Forall₂ Json.Names items named) :
    Severity.Selection.ofJson (.arr (items.map Json.inSmallLetters)) = .ok (some named) := by
  have read : Severity.listOfJson (items.map Json.inSmallLetters) = .ok named := by
    rw [Severity.listOfJson_eq_ok_iff, List.forall₂_map_left_iff]
    exact names.imp fun item severity => inSmallLetters_of_names
  rw [Severity.Selection.ofJson_of_elements rfl, read]
  rfl

/-- **Severities are accepted exactly when they are named.** Without severities, or with null for them, a
manifest asks for all; a value that is no list is refused. A list is accepted if each of its elements is a
string that spells the name of a severity in capital or small letters of ASCII, and then it asks for these
severities, in its order: a report on them is the report on the names in small letters. A list with another
element, of any kind, is refused for the first such element, by its text in lower case. -/
theorem severities_exact :
    severities none = .ok none ∧ severities (some .null) = .ok none ∧
      (∀ value : Json, value ≠ .null → (∀ items, value ≠ .arr items) →
        severities (some value) = .error .severitiesNotList) ∧
      ∀ items : List Json,
        (∀ selection, severities (some (.arr items)) = .ok selection ↔
          ∃ named, selection = some named ∧ List.Forall₂ Json.Names items named) ∧
        ((∃ selection, severities (some (.arr items)) = .ok selection) ↔
          ∀ item ∈ items, ∃ severity, item.Names severity) ∧
        ((∃ item ∈ items, ∀ severity, ¬ item.Names severity) →
          ∃ bad, Severity.FirstUnknown (items.map severityText) bad ∧
            severities (some (.arr items)) = .error (.unknownSeverity (.unknown bad))) ∧
        ∀ selection, severities (some (.arr items)) = .ok selection →
          ∀ (content : String) (fileName : LooseText),
            (Severity.Selection.ofJson (.arr (items.map Json.inSmallLetters))).map
                (Report.of content fileName) =
              .ok (Report.of content fileName selection) := by
  refine ⟨rfl, rfl, ?_, fun items =>
    ⟨fun selection => severities_arr_eq_ok_iff, ?_, ?_, fun selection accepted content fileName => ?_⟩⟩
  · intro value present unlisted
    cases value with
    | null => exact (present rfl).elim
    | arr items => exact (unlisted items rfl).elim
    | _ => rfl
  · rw [← exists_forall₂_names]
    simp only [severities_arr_eq_ok_iff]
    constructor
    · rintro ⟨selection, named, -, names⟩
      exact ⟨named, names⟩
    · rintro ⟨named, names⟩
      exact ⟨some named, named, rfl, names⟩
  · rintro ⟨item, member, unnamed⟩
    have unknown : ∃ shown ∈ items.map severityText, ∀ severity : Severity, shown ≠ .str severity.name :=
      ⟨severityText item, List.mem_map_of_mem member,
        fun severity same => unnamed severity (severityText_eq_iff.mp same)⟩
    obtain ⟨bad, first⟩ := Severity.exists_firstUnknown unknown
    refine ⟨bad, first, ?_⟩
    rw [severities, Severity.listOfJson_eq_unknown_iff.mpr first]
  · obtain ⟨named, rfl, names⟩ := severities_arr_eq_ok_iff.mp accepted
    rw [ofJson_inSmallLetters names]
    rfl

/-- Names in mixed letters are accepted; a capital I with a dot, a number and a list with a name in it are
no letters of one. -/
theorem severities_exact_mixed_letters :
    severities (some (.arr [.str "HIGH", .str "loW"])) = .ok (some [.high, .low]) ∧
      severities (some (.str "high")) = .error .severitiesNotList ∧
      (Severity.Selection.ofJson (.arr [.str "high", .str "low"])).map (Report.of "eval(x)" "a.js") =
        .ok (Report.of "eval(x)" "a.js" (some [.high, .low])) ∧
      ∀ stray ∈ [Json.str "hİgh", .int 1, .arr [.str "high"]],
        ∃ bad, Severity.FirstUnknown ([.str "Medium", stray].map severityText) bad ∧
          severities (some (.arr [.str "Medium", stray])) = .error (.unknownSeverity (.unknown bad)) := by
  obtain ⟨-, -, unlisted, listed⟩ := severities_exact
  obtain ⟨exactly, -, -, selects⟩ := listed [.str "HIGH", .str "loW"]
  have names : List.Forall₂ Json.Names [.str "HIGH", .str "loW"] [.high, .low] :=
    .cons ⟨by decide⟩ (.cons ⟨by decide⟩ .nil)
  have accepted := (exactly _).mpr ⟨_, rfl, names⟩
  refine ⟨accepted, unlisted _ nofun nofun, selects _ accepted "eval(x)" "a.js", ?_⟩
  intro stray choice
  refine (listed [.str "Medium", stray]).2.2.1 ⟨stray, by simp, ?_⟩
  simp only [List.mem_cons, List.not_mem_nil, or_false] at choice
  rcases choice with rfl | rfl | rfl
  · rintro severity ⟨spells⟩
    revert spells
    cases severity <;> decide
  · exact fun severity => nofun
  · exact fun severity => nofun

end Manifest

end SourceAudit
