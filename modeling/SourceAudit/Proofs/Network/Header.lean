import SourceAudit.Proofs.Decimal.Digits
import SourceAudit.Proofs.Json.Strings
import SourceAudit.Proofs.Text.Loose
import SourceAudit.Proofs.Text.Runs
import SourceAudit.Text.Encode

/-!
# What a header error tells

The wording of the error of a text that is not ASCII tells where the first stretch beyond ASCII starts, how
long it is, and which code point it is if there is only one. Two such errors are worded alike exactly
when they agree in all of this (`Text.EncodeError.message_eq_iff`). A surrogate counts as a code point
like any other.
-/

namespace SourceAudit

namespace Text

theorem digitChar_inj {first second : Nat} (firstSmall : first < 16) (secondSmall : second < 16)
    (same : Nat.digitChar first = Nat.digitChar second) : first = second := by
  have value := Json.hexValue?_digitChar first firstSmall
  rw [same, Json.hexValue?_digitChar second secondSmall] at value
  exact (Option.some.inj value).symm

/-- The digits of a number tell it, as far as they reach. -/
theorem mod_eq_of_hexDigits_eq {width first second : Nat}
    (same : hexDigits width first = hexDigits width second) :
    first % 16 ^ width = second % 16 ^ width := by
  have digits : ∀ place < width, first / 16 ^ place % 16 = second / 16 ^ place % 16 := by
    intro place inside
    rw [hexDigits, hexDigits, List.map_inj_left] at same
    have digit := same place (List.mem_reverse.mpr (List.mem_range.mpr inside))
    exact digitChar_inj (Nat.mod_lt _ (by decide)) (Nat.mod_lt _ (by decide)) digit
  clear same
  induction width with
  | zero => rw [Nat.pow_zero, Nat.mod_one, Nat.mod_one]
  | succ width ih =>
      rw [Nat.mod_pow_succ, Nat.mod_pow_succ, digits width (Nat.lt_succ_self width),
        ih fun place inside => digits place (Nat.lt_succ_of_lt inside)]

theorem hexDigits_inj {width first second : Nat} (firstSmall : first < 16 ^ width)
    (secondSmall : second < 16 ^ width) (same : hexDigits width first = hexDigits width second) :
    first = second := by
  have value := mod_eq_of_hexDigits_eq same
  rwa [Nat.mod_eq_of_lt firstSmall, Nat.mod_eq_of_lt secondSmall] at value

/-- The kinds of escapes, and the number of digits that each one has. -/
def escapeForms : List (Char × Nat) := [('x', 2), ('u', 4), ('U', 8)]

theorem exists_escapePoint {point : Nat} (small : point < 0x110000) :
    ∃ form ∈ escapeForms, escapePoint point = '\\' :: form.1 :: hexDigits form.2 point ∧
      point < 16 ^ form.2 := by
  unfold escapePoint
  split
  next byte => exact ⟨('x', 2), by decide, rfl, Nat.lt_succ_of_le byte⟩
  next =>
    split
    next short => exact ⟨('u', 4), by decide, rfl, Nat.lt_succ_of_le short⟩
    next => exact ⟨('U', 8), by decide, rfl, Nat.lt_trans small (by decide)⟩

/-- An escape tells its code point. -/
theorem escapePoint_inj {first second : Nat} (firstSmall : first < 0x110000)
    (secondSmall : second < 0x110000) (same : escapePoint first = escapePoint second) :
    first = second := by
  obtain ⟨form, listed, written, fits⟩ := exists_escapePoint firstSmall
  obtain ⟨other, otherListed, otherWritten, otherFits⟩ := exists_escapePoint secondSmall
  rw [written, otherWritten] at same
  simp only [List.cons.injEq, true_and] at same
  have determined : ∀ form ∈ escapeForms, ∀ other ∈ escapeForms, form.1 = other.1 → form = other := by
    decide
  obtain rfl := determined form listed other otherListed same.1
  exact hexDigits_inj fits otherFits same.2

/-- An escape has no quote in it. -/
theorem quote_not_mem_escapePoint {point : Nat} (small : point < 0x110000) :
    '\'' ∉ escapePoint point := by
  obtain ⟨form, listed, written, -⟩ := exists_escapePoint small
  rw [written, hexDigits]
  have kinds : ∀ form ∈ escapeForms, '\'' ≠ form.1 := by decide
  have digits : ∀ digit < 16, '\'' ≠ Nat.digitChar digit := by decide
  intro member
  rcases List.mem_cons.mp member with backslash | member
  · cases backslash
  · rcases List.mem_cons.mp member with kind | member
    · exact kinds form listed kind
    · obtain ⟨place, -, digit⟩ := List.mem_map.mp member
      exact digits _ (Nat.mod_lt _ (by decide)) digit.symm

/-- What stands before a mark and after it can be told apart, if the mark does not occur before. -/
theorem append_mark_inj {mark : Char} {first second rest other : List Char}
    (firstFree : mark ∉ first) (secondFree : mark ∉ second)
    (same : first ++ mark :: rest = second ++ mark :: other) : first = second ∧ rest = other := by
  have run {text : List Char} (free : mark ∉ text) : ∀ c ∈ text, (c != mark) = true := by
    intro c member
    exact bne_iff_ne.mpr fun equal => free (equal ▸ member)
  have stops : (mark != mark) = false := bne_self_eq_false mark
  have fronts := congrArg (List.takeWhile (· != mark)) same
  rw [takeWhile_run (run firstFree) stops, takeWhile_run (run secondFree) stops] at fronts
  subst fronts
  exact ⟨rfl, (List.cons.inj (List.append_cancel_left same)).2⟩

end Text

namespace Decimal

theorem toDigits_inj {first second : Nat} (same : Nat.toDigits 10 first = Nat.toDigits 10 second) :
    first = second := by
  rw [← ofDigits_toDigits first, same, ofDigits_toDigits]

/-- The text of a number tells the number, before a mark that is no digit. -/
theorem toDigits_append_inj {first second : Nat} {mark : Char} {rest other : List Char}
    (solid : mark.isDigit = false)
    (same : Nat.toDigits 10 first ++ mark :: rest = Nat.toDigits 10 second ++ mark :: other) :
    first = second ∧ rest = other := by
  have absent (n : Nat) : mark ∉ Nat.toDigits 10 n := by
    intro member
    have digit := isDigit_toDigits n mark member
    rw [solid] at digit
    cases digit
  obtain ⟨digits, rest⟩ := Text.append_mark_inj (absent first) (absent second) same
  exact ⟨toDigits_inj digits, rest⟩

end Decimal

namespace Text

/-- The error of a text that is not ASCII. -/
def EncodeError.ofAscii (position : Nat) (stretch : List Nat) : EncodeError :=
  ⟨"ascii", position, stretch, "ordinal not in range(128)"⟩

/-- A fault is the error of the stretch beyond ASCII that it names, which is made up of code points. -/
theorem exists_ofAscii_of_fault {text : LooseText} {error : EncodeError}
    (faulty : asciiFault? text = some error) :
    ∃ position stretch, error = .ofAscii position stretch ∧ ∀ point ∈ stretch, point < 0x110000 := by
  obtain ⟨position, -, rfl⟩ := Option.map_eq_some_iff.mp faulty
  refine ⟨position, _, rfl, fun point member => ?_⟩
  have listed : point ∈ text.points := List.mem_of_mem_drop (List.takeWhile_subset _ member)
  exact LooseText.point_lt listed

namespace EncodeError

/-- Two errors that show the same: they start at the same place and have the same length, and if they
are single code points, the same one. -/
structure ShowAlike (first second : EncodeError) : Prop where
  position : first.position = second.position
  length : first.stretch.length = second.stretch.length
  single : first.stretch.length = 1 → first.stretch = second.stretch

/-- What the wording of an error says about its place. -/
def place (error : EncodeError) : String :=
  match error.stretch with
  | [point] => "character '" ++ String.ofList (escapePoint point) ++ "' in position "
      ++ Decimal.natText error.position
  | stretch => "characters in position " ++ Decimal.natText error.position ++ "-"
      ++ Decimal.natText (error.position + stretch.length - 1)

theorem message_ofAscii_eq_iff {position other : Nat} {stretch others : List Nat} :
    (ofAscii position stretch).message = (ofAscii other others).message ↔
      (ofAscii position stretch).place = (ofAscii other others).place := by
  have framed (position : Nat) (stretch : List Nat) : (ofAscii position stretch).message =
      "'ascii' codec can't encode " ++ (ofAscii position stretch).place
        ++ ": ordinal not in range(128)" := by
    have opening : "'" ++ "ascii" ++ "' codec can't encode " = "'ascii' codec can't encode " := by
      decide +kernel
    have closing : ": " ++ "ordinal not in range(128)" = ": ordinal not in range(128)" := by
      decide +kernel
    rw [← opening, ← closing, ← String.append_assoc]
    rfl
  rw [framed, framed, String.append_left_inj, String.append_right_inj]

theorem toList_place_single (position point : Nat) :
    (ofAscii position [point]).place.toList =
      "character".toList ++ (' ' :: '\'' :: (escapePoint point ++ '\'' ::
        (" in position ".toList ++ Nat.toDigits 10 position))) := by
  have opened : "character '".toList = "character".toList ++ [' ', '\''] := by decide +kernel
  have closed : "' in position ".toList = '\'' :: " in position ".toList := by decide +kernel
  rw [place, ofAscii]
  simp only [Decimal.natText, String.toList_append, String.toList_ofList, opened, closed,
    List.append_assoc, List.cons_append, List.nil_append]

theorem toList_place_stretch {position : Nat} {stretch : List Nat} (many : stretch.length ≠ 1) :
    (ofAscii position stretch).place.toList =
      "character".toList ++ ('s' :: (" in position ".toList ++ (Nat.toDigits 10 position ++
        '-' :: Nat.toDigits 10 (position + stretch.length - 1)))) := by
  have opened : "characters in position ".toList =
      "character".toList ++ 's' :: " in position ".toList := by decide +kernel
  have dash : "-".toList = ['-'] := by decide
  have written : (ofAscii position stretch).place =
      "characters in position " ++ Decimal.natText position ++ "-"
        ++ Decimal.natText (position + stretch.length - 1) := by
    match stretch with
    | [] => rfl
    | _ :: _ :: _ => rfl
  rw [written]
  simp only [Decimal.natText, String.toList_append, String.toList_ofList, opened, dash,
    List.append_assoc, List.cons_append, List.nil_append]

theorem place_single_inj {position other point second : Nat} (small : point < 0x110000)
    (secondSmall : second < 0x110000)
    (same : (ofAscii position [point]).place = (ofAscii other [second]).place) :
    position = other ∧ point = second := by
  rw [← String.toList_inj, toList_place_single, toList_place_single] at same
  simp only [List.append_cancel_left_eq, List.cons.injEq, true_and] at same
  obtain ⟨escape, rest⟩ := append_mark_inj (quote_not_mem_escapePoint small)
    (quote_not_mem_escapePoint secondSmall) same
  exact ⟨Decimal.toDigits_inj (List.append_cancel_left rest),
    escapePoint_inj small secondSmall escape⟩

theorem place_stretch_inj {position other : Nat} {stretch others : List Nat}
    (many : stretch.length ≠ 1) (otherMany : others.length ≠ 1)
    (same : (ofAscii position stretch).place = (ofAscii other others).place) :
    position = other ∧ stretch.length = others.length := by
  rw [← String.toList_inj, toList_place_stretch many, toList_place_stretch otherMany] at same
  simp only [List.append_cancel_left_eq, List.cons.injEq, true_and] at same
  obtain ⟨rfl, rest⟩ := Decimal.toDigits_append_inj (by decide) same
  have last := Decimal.toDigits_inj rest
  exact ⟨rfl, by omega⟩

theorem place_single_ne {position other point : Nat} {others : List Nat}
    (many : others.length ≠ 1) :
    (ofAscii position [point]).place ≠ (ofAscii other others).place := by
  intro same
  rw [← String.toList_inj, toList_place_single, toList_place_stretch many] at same
  simp only [List.append_cancel_left_eq, List.cons.injEq] at same
  exact absurd same.1 (by decide)

/-- **Two errors of texts that are not ASCII are worded alike exactly when they show the same.** -/
theorem message_eq_iff {text otherText : LooseText} {first second : EncodeError}
    (faulty : asciiFault? text = some first) (otherFaulty : asciiFault? otherText = some second) :
    first.message = second.message ↔ first.ShowAlike second := by
  obtain ⟨position, stretch, rfl, small⟩ := exists_ofAscii_of_fault faulty
  obtain ⟨other, others, rfl, otherSmall⟩ := exists_ofAscii_of_fault otherFaulty
  rw [message_ofAscii_eq_iff]
  constructor
  · intro same
    by_cases single : stretch.length = 1
    · obtain ⟨point, rfl⟩ := List.length_eq_one_iff.mp single
      by_cases otherSingle : others.length = 1
      · obtain ⟨second, rfl⟩ := List.length_eq_one_iff.mp otherSingle
        obtain ⟨rfl, rfl⟩ := place_single_inj (small point List.mem_cons_self)
          (otherSmall second List.mem_cons_self) same
        exact ⟨rfl, rfl, fun _ => rfl⟩
      · exact (place_single_ne otherSingle same).elim
    · by_cases otherSingle : others.length = 1
      · obtain ⟨second, rfl⟩ := List.length_eq_one_iff.mp otherSingle
        exact (place_single_ne single same.symm).elim
      · obtain ⟨rfl, length⟩ := place_stretch_inj single otherSingle same
        exact ⟨rfl, length, fun one => (single one).elim⟩
  · rintro ⟨same, length, alike⟩
    obtain rfl : position = other := same
    by_cases single : stretch.length = 1
    · obtain rfl : stretch = others := alike single
      rfl
    · change stretch.length = others.length at length
      rw [← String.toList_inj, toList_place_stretch single,
        toList_place_stretch (length ▸ single), length]

end EncodeError

theorem asciiFault?_eq_none_iff {text : LooseText} :
    asciiFault? text = none ↔ ∀ point ∈ text.points, isBeyondAscii point = false := by
  rw [asciiFault?, Option.map_eq_none_iff, List.findIdx?_eq_none_iff]

/-- ASCII before a text moves its fault. -/
theorem asciiFault?_append {front text : LooseText} (plain : asciiFault? front = none) :
    asciiFault? (front ++ text) = (asciiFault? text).map fun fault =>
      .ofAscii (fault.position + front.points.length) fault.stretch := by
  have passed := List.findIdx?_eq_none_iff.mpr (asciiFault?_eq_none_iff.mp plain)
  rw [asciiFault?, asciiFault?, LooseText.points_append, List.findIdx?_append, passed,
    Option.none_or]
  cases text.points.findIdx? isBeyondAscii with
  | none => rfl
  | some position => simp [EncodeError.ofAscii, Nat.add_comm position]

end Text

end SourceAudit
