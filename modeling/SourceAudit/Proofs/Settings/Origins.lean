import SourceAudit.Proofs.Settings.Unset
import SourceAudit.Proofs.Text.Lines
import SourceAudit.Proofs.Text.Trim

/-!
# Lists of origins

A list of origins is written with commas between them, with any blanks around each, and with blank parts
anywhere (`Writes`). A text is read as the origins that it writes, and as no others: these hold no comma,
are not empty, and have no blanks around them (`Settings.originsOf_eq_iff`). In the settings nothing but
the origins depends on the variable that writes them (`Settings.ofEnvironment_set_origins`).
-/

namespace SourceAudit

open Text (isBlank trim)

/-- A text that stands for itself in a list of origins. It need not be an origin by any standard. -/
structure IsOrigin (origin : String) : Prop where
  nonempty : origin ≠ ""
  unseparated : ',' ∉ origin.toList
  trimmed : Text.IsTrimmed origin.toList

/-- Parts of a text that write origins, one after the other: each origin has blanks around it, and any
part may be blank. -/
inductive Parts : List (List Char) → List String → Prop
  | nil : Parts [] []
  | blank {part : List Char} {parts : List (List Char)} {origins : List String}
      (blank : ∀ c ∈ part, isBlank c = true) (rest : Parts parts origins) :
      Parts (part :: parts) origins
  | origin {before after : List Char} {origin : String} {parts : List (List Char)}
      {origins : List String} (blankBefore : ∀ c ∈ before, isBlank c = true)
      (blankAfter : ∀ c ∈ after, isBlank c = true) (rest : Parts parts origins) :
      Parts ((before ++ origin.toList ++ after) :: parts) (origin :: origins)

/-- A text writes origins if its parts between commas do. -/
def Writes (text : String) (origins : List String) : Prop :=
  ∃ parts, Parts parts origins ∧ text.toList = List.intercalate [','] parts

theorem not_mem_of_isBlank {part : List Char} (blank : ∀ c ∈ part, isBlank c = true) : ',' ∉ part := by
  intro member
  exact absurd (blank ',' member) (by decide)

namespace Parts

variable {parts : List (List Char)} {origins : List String}

/-- There is no comma within a part. -/
theorem unseparated (written : Parts parts origins) (plain : ∀ origin ∈ origins, IsOrigin origin) :
    ∀ part ∈ parts, ',' ∉ part := by
  induction written with
  | nil => exact List.forall_mem_nil _
  | blank blank _ ih => exact List.forall_mem_cons.mpr ⟨not_mem_of_isBlank blank, ih plain⟩
  | origin blankBefore blankAfter _ ih =>
      obtain ⟨first, others⟩ := List.forall_mem_cons.mp plain
      refine List.forall_mem_cons.mpr ⟨?_, ih others⟩
      rw [List.mem_append, List.mem_append]
      rintro ((inside | inside) | inside)
      · exact not_mem_of_isBlank blankBefore inside
      · exact first.unseparated inside
      · exact not_mem_of_isBlank blankAfter inside

/-- Trimmed, the parts that are not blank are the origins. -/
theorem trimmed (written : Parts parts origins) (plain : ∀ origin ∈ origins, IsOrigin origin) :
    (parts.map trim).filter (!·.isEmpty) = origins.map String.toList := by
  induction written with
  | nil => rfl
  | blank blank _ ih =>
      rw [List.map_cons, Text.trim_eq_nil_iff.mpr blank, List.filter_cons_of_neg (by decide)]
      exact ih plain
  | @origin before after origin _ _ blankBefore blankAfter _ ih =>
      obtain ⟨first, others⟩ := List.forall_mem_cons.mp plain
      have solid : (!origin.toList.isEmpty) = true := by
        rw [Bool.not_eq_true', List.isEmpty_eq_false_iff]
        exact fun none => first.nonempty (String.toList_eq_nil_iff.mp none)
      rw [List.map_cons, Text.trim_surrounded blankBefore blankAfter,
        Text.trim_eq_self_iff.mpr first.trimmed, List.filter_cons, if_pos solid, ih others]
      rfl

/-- Any parts write something: what is left of those that are not blank. -/
theorem of_parts (parts : List (List Char)) :
    Parts parts (((parts.map trim).filter (!·.isEmpty)).map String.ofList) := by
  induction parts with
  | nil => exact .nil
  | cons part parts ih =>
      obtain ⟨before, after, blankBefore, blankAfter, split⟩ := Text.exists_trim part
      by_cases blank : trim part = []
      · rw [List.map_cons, List.filter_cons_of_neg (by simp [blank])]
        exact .blank (Text.trim_eq_nil_iff.mp blank) ih
      · rw [List.map_cons, List.filter_cons_of_pos (by simp [blank]), List.map_cons]
        have written : Parts ((before ++ (String.ofList (trim part)).toList ++ after) :: parts) _ :=
          .origin blankBefore blankAfter ih
        rwa [String.toList_ofList, ← split] at written

end Parts

namespace Settings

variable {text : String} {origins : List String}

/-- What is read of a list is an origin. -/
theorem isOrigin_of_mem_originsOf {origin : String} (member : origin ∈ originsOf text) :
    IsOrigin origin := by
  rw [originsOf] at member
  obtain ⟨trimmed, kept, rfl⟩ := List.mem_map.mp member
  obtain ⟨listed, solid⟩ := List.mem_filter.mp kept
  obtain ⟨part, present, rfl⟩ := List.mem_map.mp listed
  refine ⟨?_, ?_, ?_⟩
  · intro none
    rw [String.ofList_eq_empty_iff.mp none] at solid
    cases solid
  · rw [String.toList_ofList]
    exact fun inside => Text.not_mem_of_mem_splitOn present (Text.mem_of_mem_trim inside)
  · rw [String.toList_ofList]
    exact Text.isTrimmed_trim part

/-- Every text writes what is read of it. -/
theorem writes_originsOf (text : String) : Writes text (originsOf text) := by
  refine ⟨Text.splitOn ',' text.toList, Parts.of_parts _, ?_⟩
  rw [Text.splitOn_eq_listSplitOn, List.intercalate_splitOn]

/-- A text is read as the origins that it writes. -/
theorem originsOf_of_writes (written : Writes text origins)
    (plain : ∀ origin ∈ origins, IsOrigin origin) : originsOf text = origins := by
  obtain ⟨parts, written, joined⟩ := written
  have restored : (origins.map String.toList).map String.ofList = origins := by simp
  rw [originsOf, joined, Text.splitOn_eq_listSplitOn]
  cases parts with
  | nil =>
      cases written
      rfl
  | cons part parts =>
      rw [List.splitOn_intercalate _ (written.unseparated plain) (List.cons_ne_nil part parts),
        written.trimmed plain, restored]

/-- **A list of origins is read as what it writes, and as nothing else.** -/
theorem originsOf_eq_iff :
    originsOf text = origins ↔ (∀ origin ∈ origins, IsOrigin origin) ∧ Writes text origins := by
  constructor
  · rintro rfl
    exact ⟨fun origin => isOrigin_of_mem_originsOf, writes_originsOf text⟩
  · rintro ⟨plain, written⟩
    exact originsOf_of_writes written plain

/-- Origins joined by commas write the origins. -/
theorem writes_intercalate (origins : List String) : Writes (",".intercalate origins) origins := by
  refine ⟨origins.map String.toList, ?_, String.toList_intercalate⟩
  induction origins with
  | nil => exact .nil
  | cons origin origins ih =>
      have written : Parts (([] ++ origin.toList ++ []) :: _) (origin :: origins) :=
        .origin (List.forall_mem_nil _) (List.forall_mem_nil _) ih
      rwa [List.nil_append, List.append_nil] at written

/-- Setting the variable changes the origins, and nothing else: neither the other settings nor what is
wrong with the environment. -/
theorem ofEnvironment_set_origins (environment : Environment) (nonempty : text ≠ "") :
    ofEnvironment (environment.set .corsOrigins text) =
      (ofEnvironment environment).map fun settings =>
        { settings with corsOrigins := originsOf text } := by
  have agrees := Environment.agreesBeside_set environment .corsOrigins text
  have backend : namedBackend (environment.set .corsOrigins text) = namedBackend environment := by
    rw [namedBackend, agrees.get?_eq (by decide), ← namedBackend]
  have timeout : chosenTimeout (environment.set .corsOrigins text) = chosenTimeout environment := by
    rw [chosenTimeout, agrees.nonempty?_eq (by decide), ← chosenTimeout]
  have others (backend : Backend) (timeout : Decimal.Binary64) :
      written (environment.set .corsOrigins text) backend timeout =
        { written environment backend timeout with corsOrigins := originsOf text } := by
    have chosen : (environment.set .corsOrigins text).nonempty? Variable.corsOrigins.name =
        some text := by
      rw [Environment.nonempty?, Environment.get?_set_self]
      exact Option.filter_some_pos (bne_iff_ne.mpr nonempty)
    simp (disch := decide) only [written, chosen, agrees.nonempty?_eq, Option.map_some,
      Option.getD_some]
  rw [ofEnvironment, check_eq, backend, timeout, ofEnvironment, check_eq]
  cases namedBackend environment with
  | invalid issues => cases chosenTimeout environment <;> rfl
  | valid backend =>
      cases chosenTimeout environment with
      | invalid issues => rfl
      | valid timeout => exact congrArg Except.ok (others backend timeout)

/-- **Lists of origins are read back.** Let the variable of the origins be set to any text that is not
empty. If the text writes some origins, with any blanks and any blank parts, the outcome is that of the
environment without it, but for the origins, which are these. And whenever there are settings, each of
their origins is trimmed, not empty and without a comma, and joined by commas they give the same settings
again, unless there are none. -/
theorem origins_round_trip (environment : Environment) (nonempty : text ≠ "") :
    (∀ origins, (∀ origin ∈ origins, IsOrigin origin) → Writes text origins →
      ofEnvironment (environment.set .corsOrigins text) =
        (ofEnvironment environment).map fun settings => { settings with corsOrigins := origins }) ∧
    (∀ settings, ofEnvironment (environment.set .corsOrigins text) = .ok settings →
      (∀ origin ∈ settings.corsOrigins, IsOrigin origin) ∧
        (settings.corsOrigins ≠ [] →
          ofEnvironment (environment.set .corsOrigins (",".intercalate settings.corsOrigins)) =
            .ok settings)) := by
  rw [ofEnvironment_set_origins environment nonempty]
  refine ⟨fun origins plain written => ?_, fun settings read => ?_⟩
  · rw [originsOf_of_writes written plain]
  · cases readOthers : ofEnvironment environment with
    | error error =>
        rw [readOthers] at read
        cases read
    | ok others =>
        rw [readOthers] at read
        cases read
        refine ⟨fun origin => isOrigin_of_mem_originsOf, fun present => ?_⟩
        have again := originsOf_of_writes (writes_intercalate (originsOf text))
          fun origin => isOrigin_of_mem_originsOf
        have joined : ",".intercalate (originsOf text) ≠ "" := by
          intro empty
          rw [empty] at again
          exact present again.symm
        rw [ofEnvironment_set_origins environment joined, readOthers, again]
        rfl

/-- Blanks around the origins and within one, blank parts in front, between and behind. -/
theorem origins_round_trip_loose_text :
    ∃ settings, ofEnvironment ⟨[("CODESAFE_CORS_ORIGINS", ",\u3000 https://a.example\x1f,\t, b c ,"),
        ("CODESAFE_MODEL", "m"), ("CODESAFE_CORS_ORIGINS", "*")]⟩ = .ok settings ∧
      settings.corsOrigins = ["https://a.example", "b c"] ∧
      ofEnvironment ⟨[("CODESAFE_CORS_ORIGINS", "https://a.example,b c"),
        ("CODESAFE_MODEL", "m"), ("CODESAFE_CORS_ORIGINS", "*")]⟩ = .ok settings := by
  let environment : Environment := ⟨[("CODESAFE_MODEL", "m"), ("CODESAFE_CORS_ORIGINS", "*")]⟩
  let text := ",\u3000 https://a.example\x1f,\t, b c ,"
  have listed : originsOf text = ["https://a.example", "b c"] := by decide +kernel
  obtain ⟨plain, written⟩ := originsOf_eq_iff.mp listed
  have read : ofEnvironment environment =
      .ok (Settings.written environment .openRouter defaultTimeout) := by decide +kernel
  obtain ⟨forth, back⟩ := origins_round_trip environment (show text ≠ "" by decide)
  have settled := forth _ plain written
  rw [read] at settled
  exact ⟨_, settled, rfl, (back _ settled).2 (List.cons_ne_nil _ _)⟩

end Settings

end SourceAudit
