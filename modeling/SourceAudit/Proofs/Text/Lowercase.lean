import SourceAudit.Text.Lowercase

/-!
# Lower case is settled

The characters that lower casing gives are left as they are by lower casing again, wherever they stand
(`isLowered_of_mem_lower`, `lower_eq_self`), and none of them is a dot unless the text has one
(`dot_not_mem_lower`). The table of capitals is looked at run by run: the lower case of one run lies
before or behind every other run, or between its steps (`CaseRun.clears`).
-/

namespace SourceAudit.Text

namespace CaseRun

variable {run other : CaseRun} {point : Nat}

/-- One code point by itself. -/
def single (point : Nat) : CaseRun := ⟨point, point, 1, 0⟩

/-- The lower case of the first point of a run. -/
def firstLowered (run : CaseRun) : Nat := (run.first + run.distance).toNat

/-- The lower case of the last point of a run. -/
def lastLowered (run : CaseRun) : Nat := (run.last + run.distance).toNat

/-- Whether the lower case of a run lies within the code points of characters. -/
def landsOnCharacters (run : CaseRun) : Bool :=
  decide (0 ≤ run.first + run.distance) && (Nat.blt run.lastLowered 0xd800 ||
    Nat.blt 0xdfff run.firstLowered && Nat.blt run.lastLowered 0x110000)

/-- Whether the lower case of a run holds no point of another one: it lies before that or behind it, or
the other takes every second point only, and not those. -/
def clears (run other : CaseRun) : Bool :=
  Nat.blt run.lastLowered other.first || Nat.blt other.last run.firstLowered ||
    (Nat.beq other.step 2 && (Nat.beq run.step 2 || Nat.beq run.first run.last) &&
      Nat.beq ((run.firstLowered + other.first) % 2) 1)

theorem has_iff :
    run.has point = true ↔
      run.first ≤ point ∧ point ≤ run.last ∧ (point - run.first) % run.step = 0 := by
  simp only [has, Bool.and_eq_true, decide_eq_true_eq, beq_iff_eq, and_assoc]

theorem has_single (point : Nat) : (single point).has point = true := by
  rw [has_iff]
  exact ⟨Nat.le_refl point, Nat.le_refl point, Nat.mod_one _⟩

theorem landsOnCharacters_iff :
    run.landsOnCharacters = true ↔
      0 ≤ run.first + run.distance ∧
        (run.lastLowered < 0xd800 ∨ 0xdfff < run.firstLowered ∧ run.lastLowered < 0x110000) := by
  simp only [landsOnCharacters, Bool.and_eq_true, Bool.or_eq_true, decide_eq_true_eq, Nat.blt_eq]

theorem clears_iff :
    run.clears other = true ↔
      run.lastLowered < other.first ∨ other.last < run.firstLowered ∨
        other.step = 2 ∧ (run.step = 2 ∨ run.first = run.last) ∧
          (run.firstLowered + other.first) % 2 = 1 := by
  simp only [clears, Bool.and_eq_true, Bool.or_eq_true, Nat.blt_eq, Nat.beq_eq, or_assoc, and_assoc]

/-- The lower case of a point is a character. -/
theorem toNat_lowered (lands : run.landsOnCharacters = true) (holds : run.has point = true) :
    (Char.ofNat (point + run.distance).toNat).toNat = (point + run.distance).toNat := by
  obtain ⟨least, most, -⟩ := has_iff.mp holds
  obtain ⟨nonnegative, within⟩ := landsOnCharacters_iff.mp lands
  have valid : (point + run.distance).toNat.isValidChar := by
    rw [lastLowered, firstLowered] at within
    rw [Nat.isValidChar]
    omega
  rw [Char.ofNat, dif_pos valid]
  rfl

/-- The lower case of a point is in no run that the lower case of its run clears. -/
theorem has_lowered_eq_false (lands : run.landsOnCharacters = true)
    (clears : run.clears other = true) (holds : run.has point = true) :
    other.has (point + run.distance).toNat = false := by
  obtain ⟨least, most, onStep⟩ := has_iff.mp holds
  obtain ⟨nonnegative, -⟩ := landsOnCharacters_iff.mp lands
  rw [Bool.eq_false_iff, Ne, has_iff]
  rintro ⟨above, below, onOther⟩
  rcases clears_iff.mp clears with before | behind | ⟨second, alternate, apart⟩
  · rw [lastLowered] at before
    omega
  · rw [firstLowered] at behind
    omega
  · rw [firstLowered] at apart
    rw [second] at onOther
    rcases alternate with second | alone
    · rw [second] at onStep
      omega
    · omega

/-- The lower case of every run of capitals clears all of them, the capital I with a dot and the dot. -/
theorem caseRuns_clear :
    (caseRuns.all fun run =>
      run.landsOnCharacters &&
        (single '.'.toNat :: single 0x130 :: caseRuns).all run.clears) = true := by
  decide +kernel

theorem clears_of_mem_caseRuns (listed : run ∈ caseRuns) :
    run.landsOnCharacters = true ∧
      ∀ other ∈ single '.'.toNat :: single 0x130 :: caseRuns, run.clears other = true := by
  have clear := List.all_eq_true.mp caseRuns_clear run listed
  rw [Bool.and_eq_true, List.all_eq_true] at clear
  exact clear

end CaseRun

/-- A character that is no capital of any kind. -/
def IsLowered (c : Char) : Prop :=
  ∀ run ∈ CaseRun.single 0x130 :: caseRuns, run.has c.toNat = false

instance (c : Char) : Decidable (IsLowered c) :=
  inferInstanceAs (Decidable (∀ run ∈ CaseRun.single 0x130 :: caseRuns, run.has c.toNat = false))

variable {c d : Char} {text : List Char}

theorem IsLowered.ne_dotted (lowered : IsLowered c) : c.toNat ≠ 0x130 := by
  intro same
  have apart := lowered _ List.mem_cons_self
  rw [same, CaseRun.has_single] at apart
  cases apart

theorem IsLowered.ne_sigma (lowered : IsLowered c) : c.toNat ≠ 0x3a3 := by
  intro same
  have held : (caseRuns.any (·.has 0x3a3)) = true := by decide +kernel
  obtain ⟨run, listed, holds⟩ := List.any_eq_true.mp held
  rw [← same, lowered run (List.mem_cons_of_mem _ listed)] at holds
  cases holds

theorem lowerChar_eq_self (lowered : IsLowered c) : lowerChar c = [c] := by
  have none : caseRuns.find? (·.has c.toNat) = none := by
    rw [List.find?_eq_none]
    intro run listed
    exact Bool.eq_false_iff.mp (lowered run (List.mem_cons_of_mem _ listed))
  rw [lowerChar, if_neg lowered.ne_dotted, none]

/-- What the lower case of a character is made of: of the capital I with a dot, an i and a combining
dot; of a capital in a run, one character at the distance of the run; of any other character, itself. -/
theorem mem_lowerChar (member : d ∈ lowerChar c) :
    d ∈ ['i', Char.ofNat 0x307] ∨
      (∃ run ∈ caseRuns, run.has c.toNat = true ∧
        d = Char.ofNat (c.toNat + run.distance).toNat) ∨
      d = c ∧ IsLowered c := by
  rw [lowerChar] at member
  split at member
  next => exact .inl member
  next plain =>
    split at member
    next run found =>
      have holds : run.has c.toNat = true := by simpa using List.find?_some found
      exact .inr (.inl
        ⟨run, List.mem_of_find?_eq_some found, holds, List.mem_singleton.mp member⟩)
    next none =>
      refine .inr (.inr ⟨List.mem_singleton.mp member, ?_⟩)
      rw [List.find?_eq_none] at none
      intro run listed
      rw [Bool.eq_false_iff]
      rcases List.mem_cons.mp listed with rfl | listed
      · rw [Ne, CaseRun.has_iff]
        rintro ⟨least, most, -⟩
        exact plain (Nat.le_antisymm most least)
      · exact none run listed

/-- The lower case of a character is no capital. -/
theorem isLowered_of_mem_lowerChar (member : d ∈ lowerChar c) : IsLowered d := by
  rcases mem_lowerChar member with letter | ⟨run, listed, holds, rfl⟩ | ⟨rfl, lowered⟩
  · rw [List.mem_cons, List.mem_singleton] at letter
    rcases letter with rfl | rfl <;> decide +kernel
  · obtain ⟨lands, clears⟩ := CaseRun.clears_of_mem_caseRuns listed
    intro other otherListed
    rw [CaseRun.toNat_lowered lands holds]
    exact CaseRun.has_lowered_eq_false lands
      (clears other (List.mem_cons_of_mem _ otherListed)) holds
  · exact lowered

/-- The lower case of a character is no dot, unless the character is. -/
theorem dot_not_mem_lowerChar (other : c ≠ '.') : '.' ∉ lowerChar c := by
  intro member
  rcases mem_lowerChar member with letter | ⟨run, listed, holds, same⟩ | ⟨same, -⟩
  · exact absurd letter (by decide)
  · obtain ⟨lands, clears⟩ := CaseRun.clears_of_mem_caseRuns listed
    have apart := CaseRun.has_lowered_eq_false lands (clears _ List.mem_cons_self) holds
    rw [← CaseRun.toNat_lowered lands holds, ← same, CaseRun.has_single] at apart
    cases apart
  · exact other same.symm

/-- A character of the lower case of a text is in the lower case of one of its characters, or it is one
of the two small sigmas. -/
theorem mem_lowerAfter {afterCased : Bool} (member : d ∈ lowerAfter afterCased text) :
    (∃ c ∈ text, d ∈ lowerChar c) ∨ d ∈ [Char.ofNat 0x3c2, Char.ofNat 0x3c3] := by
  induction text generalizing afterCased with
  | nil => cases member
  | cons c rest ih =>
      rw [lowerAfter, List.mem_append] at member
      rcases member with here | later
      · split at here
        next =>
          right
          rw [List.mem_singleton.mp here]
          split <;> simp
        next => exact .inl ⟨c, List.mem_cons_self, here⟩
      · rcases ih later with ⟨other, listed, found⟩ | sigma
        · exact .inl ⟨other, List.mem_cons_of_mem c listed, found⟩
        · exact .inr sigma

/-- **The lower case of a text holds no capital.** -/
theorem isLowered_of_mem_lower (member : d ∈ lower text) : IsLowered d := by
  rcases mem_lowerAfter member with ⟨c, -, found⟩ | sigma
  · exact isLowered_of_mem_lowerChar found
  · rw [List.mem_cons, List.mem_singleton] at sigma
    rcases sigma with rfl | rfl <;> decide +kernel

theorem dot_not_mem_lower (free : '.' ∉ text) : '.' ∉ lower text := by
  intro member
  rcases mem_lowerAfter member with ⟨c, listed, found⟩ | sigma
  · have other : c ≠ '.' := fun same => free (same ▸ listed)
    exact dot_not_mem_lowerChar other found
  · exact absurd sigma (by decide)

theorem lowerAfter_eq_self (lowered : ∀ c ∈ text, IsLowered c) (afterCased : Bool) :
    lowerAfter afterCased text = text := by
  induction text generalizing afterCased with
  | nil => rfl
  | cons c rest ih =>
      rw [List.forall_mem_cons] at lowered
      rw [lowerAfter, if_neg lowered.1.ne_sigma, lowerChar_eq_self lowered.1, ih lowered.2]
      rfl

/-- A text without capitals is its own lower case. -/
theorem lower_eq_self (lowered : ∀ c ∈ text, IsLowered c) : lower text = text :=
  lowerAfter_eq_self lowered false

end SourceAudit.Text
