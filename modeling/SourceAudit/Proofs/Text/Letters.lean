import SourceAudit.Proofs.Text.Lowercase

/-!
# The lower case of ASCII letters

On ASCII the lower case of a text is taken character by character (`lower_eq_map_of_ascii`). Beyond it
there are characters with a lower case in ASCII: the Kelvin sign becomes a k, and the capital I with a dot
an i that is followed by a combining dot. So a word of other small letters than k is the lower case of its
spellings in capital and small letters, and of no other text (`lower_eq_iff`).
-/

namespace SourceAudit.Text

variable {c : Char} {text word : List Char}

/-- A letter of ASCII. -/
def IsLetter (c : Char) : Prop :=
  65 ≤ c.toNat ∧ c.toNat ≤ 90 ∨ 97 ≤ c.toNat ∧ c.toNat ≤ 122

instance (c : Char) : Decidable (IsLetter c) :=
  inferInstanceAs (Decidable (_ ∨ _))

/-- A small letter of ASCII, but for the k. -/
def IsPlainLetter (c : Char) : Prop :=
  97 ≤ c.toNat ∧ c.toNat ≤ 122 ∧ c.toNat ≠ 107

instance (c : Char) : Decidable (IsPlainLetter c) :=
  inferInstanceAs (Decidable (_ ∧ _ ∧ _))

/-- Only the capitals of ASCII have a small letter of ASCII that is another one. -/
theorem toLower_cases (c : Char) :
    (65 ≤ c.toNat ∧ c.toNat ≤ 90 ∧ c.toLower.toNat = c.toNat + 32) ∨
      (¬ (65 ≤ c.toNat ∧ c.toNat ≤ 90) ∧ c.toLower = c) := by
  by_cases capital : c.val ≥ 'A'.val ∧ c.val ≤ 'Z'.val
  · have bounds : 65 ≤ c.toNat ∧ c.toNat ≤ 90 := capital
    have lowered : c.toLower.toNat = (c.val + 32).toNat := by
      delta Char.toLower
      rw [dif_pos capital]
      rfl
    refine .inl ⟨bounds.1, bounds.2, ?_⟩
    rw [lowered, UInt32.toNat_add]
    exact Nat.mod_eq_of_lt (by change c.toNat + 32 < 2 ^ 32; omega)
  · exact .inr ⟨capital, dif_neg capital⟩

/-- What has a small letter of ASCII is a letter of ASCII. -/
theorem isLetter_of_toLower (letter : IsPlainLetter c.toLower) : IsLetter c := by
  rw [IsPlainLetter] at letter
  rw [IsLetter]
  rcases toLower_cases c with ⟨least, most, -⟩ | ⟨-, same⟩
  · exact .inl ⟨least, most⟩
  · rw [same] at letter
    omega

/-- On ASCII the lower case of a character is its small letter. -/
theorem lowerChar_of_ascii (ascii : c.toNat < 128) : lowerChar c = [c.toLower] := by
  have each : ∀ n < 128, lowerChar (Char.ofNat n) = [(Char.ofNat n).toLower] := by decide +kernel
  have found := each c.toNat ascii
  rwa [Char.ofNat_toNat] at found

/-- Of the runs of capitals, all but the first one have their lower case beside the plain letters. -/
theorem caseRuns_beside_plain :
    (caseRuns.all fun run => Nat.blt run.last 128 ||
      run.landsOnCharacters && run.clears ⟨97, 106, 1, 0⟩ && run.clears ⟨108, 122, 1, 0⟩) = true := by
  decide +kernel

/-- A character of which the lower case is made of plain letters is one of ASCII. -/
theorem isAscii_of_lowerChar (plain : ∀ d ∈ lowerChar c, IsPlainLetter d) : c.toNat < 128 := by
  rw [lowerChar] at plain
  split at plain
  next => exact absurd (plain (Char.ofNat 0x307) (by simp)) (by decide)
  next =>
    split at plain
    next run found =>
      have holds : run.has c.toNat = true := by simpa using List.find?_some found
      have checked := List.all_eq_true.mp caseRuns_beside_plain run (List.mem_of_find?_eq_some found)
      simp only [Bool.or_eq_true, Bool.and_eq_true, Nat.blt_eq] at checked
      rcases checked with low | ⟨⟨lands, before⟩, behind⟩
      · exact Nat.lt_of_le_of_lt (CaseRun.has_iff.mp holds).2.1 low
      · -- The lower case would be in one of the two stretches of plain letters.
        have letter := plain _ List.mem_cons_self
        rw [IsPlainLetter, CaseRun.toNat_lowered lands holds] at letter
        have first := CaseRun.has_lowered_eq_false lands before holds
        have second := CaseRun.has_lowered_eq_false lands behind holds
        simp only [Bool.eq_false_iff, ne_eq, CaseRun.has_iff, Nat.mod_one, and_true] at first second
        omega
    next =>
      have letter := plain c List.mem_cons_self
      rw [IsPlainLetter] at letter
      omega

theorem lowerAfter_eq_map_of_ascii (ascii : ∀ c ∈ text, c.toNat < 128) (afterCased : Bool) :
    lowerAfter afterCased text = text.map Char.toLower := by
  induction text generalizing afterCased with
  | nil => rfl
  | cons c rest ih =>
      rw [List.forall_mem_cons] at ascii
      rw [lowerAfter, if_neg (by omega), lowerChar_of_ascii ascii.1, ih ascii.2]
      rfl

/-- On ASCII the lower case of a text is taken character by character. -/
theorem lower_eq_map_of_ascii (ascii : ∀ c ∈ text, c.toNat < 128) :
    lower text = text.map Char.toLower :=
  lowerAfter_eq_map_of_ascii ascii false

/-- A text of which the lower case is made of plain letters is one of ASCII. -/
theorem isAscii_of_lowerAfter {afterCased : Bool}
    (plain : ∀ d ∈ lowerAfter afterCased text, IsPlainLetter d) : ∀ c ∈ text, c.toNat < 128 := by
  induction text generalizing afterCased with
  | nil => exact List.forall_mem_nil _
  | cons c rest ih =>
      rw [lowerAfter, List.forall_mem_append] at plain
      refine List.forall_mem_cons.mpr ⟨?_, ih plain.2⟩
      by_cases sigma : c.toNat = 0x3a3
      · have small := plain.1
        rw [if_pos sigma, List.forall_mem_singleton] at small
        split at small
        next => exact absurd small (by decide)
        next => exact absurd small (by decide)
      · rw [if_neg sigma] at plain
        exact isAscii_of_lowerChar plain.1

/-- **A word of plain letters is the lower case of its spellings, and of no other text.** -/
theorem lower_eq_iff (plain : ∀ c ∈ word, IsPlainLetter c) :
    lower text = word ↔ text.map Char.toLower = word := by
  constructor
  · rintro rfl
    exact (lower_eq_map_of_ascii (isAscii_of_lowerAfter plain)).symm
  · rintro rfl
    refine lower_eq_map_of_ascii fun c member => ?_
    have letter := isLetter_of_toLower (plain _ (List.mem_map_of_mem member))
    rw [IsLetter] at letter
    omega

end SourceAudit.Text
