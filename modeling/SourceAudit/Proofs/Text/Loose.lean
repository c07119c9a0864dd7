import SourceAudit.Text.Loose
import Mathlib.Data.List.TakeWhile

/-!
# Loose texts by their code points

A loose text is its code points: they make it up again (`ofPoints_points`), so two texts with the same
code points are equal (`points_inj`), and what is said of texts one after the other can be said of lists
(`points_append`). A text without surrogates is a string (`isUnicode_iff`), and everything that is
defined for loose texts is then what it is for strings.
-/

namespace SourceAudit

/-- No character has the code point of a surrogate. -/
theorem isSurrogate_toNat (c : Char) : isSurrogate c.toNat = false := by
  have valid : c.toNat < 0xd800 ∨ 0xdfff < c.toNat ∧ c.toNat < 0x110000 := c.valid
  rw [isSurrogate, Bool.and_eq_false_iff, decide_eq_false_iff_not, decide_eq_false_iff_not]
  omega

namespace LooseText

variable {first second third : LooseText}

theorem points_unicode (text : String) : points text = text.toList.map Char.toNat :=
  List.append_nil _

theorem isUnicode_iff {text : LooseText} : text.isUnicode = true ↔ ∃ plain : String, text = plain := by
  obtain ⟨head, tail⟩ := text
  constructor
  · intro whole
    obtain rfl := List.isEmpty_iff.mp whole
    exact ⟨head, rfl⟩
  · rintro ⟨plain, same⟩
    cases same
    rfl

@[simp]
theorem unicode_inj {first second : String} :
    (first : LooseText) = (second : LooseText) ↔ first = second :=
  ⟨congrArg head, congrArg unicode⟩

@[simp]
theorem isUnicode_unicode (text : String) : isUnicode text = true := rfl

@[simp]
theorem shown_unicode (text : String) : shown text = text := rfl

@[simp]
theorem append_unicode (first second : String) :
    (first : LooseText) ++ (second : LooseText) = ((first ++ second : String) : LooseText) := rfl

/-- Characters in front of a text that is given by its characters. -/
theorem foldr_addPoint_toNat (front : List Char) (text : List Char × List (Surrogate × List Char)) :
    (front.map Char.toNat).foldr addPoint text = (front ++ text.1, text.2) := by
  induction front with
  | nil => rfl
  | cons c rest ih =>
      rw [List.map_cons, List.foldr_cons, ih, addPoint, dif_neg (by simp [isSurrogate_toNat]),
        Char.ofNat_toNat]
      rfl

theorem ofPoints_toNat (text : List Char) : ofPoints (text.map Char.toNat) = String.ofList text := by
  rw [ofPoints, foldr_addPoint_toNat, List.append_nil]
  rfl

/-- **The code points of a text make it up again.** -/
theorem ofPoints_points (text : LooseText) : ofPoints text.points = text := by
  have later (tail : List (Surrogate × String)) :
      (tail.flatMap fun piece => piece.1.point :: piece.2.toList.map Char.toNat).foldr addPoint ([], []) =
        ([], tail.map fun piece => (piece.1, piece.2.toList)) := by
    induction tail with
    | nil => rfl
    | cons piece rest ih =>
        obtain ⟨surrogate, after⟩ := piece
        rw [List.flatMap_cons, List.foldr_append, ih, List.foldr_cons, foldr_addPoint_toNat,
          List.append_nil, addPoint, dif_pos surrogate.inRange]
        rfl
  rw [ofPoints, points, List.foldr_append, later, foldr_addPoint_toNat]
  simp [Function.comp_def]

theorem points_inj : first.points = second.points ↔ first = second := by
  refine ⟨fun same => ?_, congrArg points⟩
  rw [← ofPoints_points first, same, ofPoints_points]

theorem points_append (first second : LooseText) :
    (first ++ second).points = first.points ++ second.points := by
  obtain ⟨head, tail⟩ := first
  change (appendTo head tail second).points = _
  induction tail generalizing head with
  | nil => simp [appendTo, points]
  | cons piece rest ih =>
      obtain ⟨surrogate, after⟩ := piece
      have later := ih after
      simp only [points] at later
      simp [appendTo, points, later]

theorem append_assoc (first second third : LooseText) :
    first ++ second ++ third = first ++ (second ++ third) := by
  rw [← points_inj]
  simp only [points_append, List.append_assoc]

theorem append_right_inj : first ++ second = first ++ third ↔ second = third := by
  rw [← points_inj, ← points_inj, points_append, points_append, List.append_cancel_left_eq]

/-- Every code point of a text is that of a character, or a surrogate of its tail. -/
theorem any_isSurrogate_points (text : LooseText) :
    text.points.any isSurrogate = !text.isUnicode := by
  obtain ⟨head, tail⟩ := text
  have front : (head.toList.map Char.toNat).any isSurrogate = false := by
    simp [isSurrogate_toNat]
  rw [points, List.any_append, front, Bool.false_or]
  cases tail with
  | nil => rfl
  | cons piece rest =>
      rw [List.flatMap_cons, List.cons_append, List.any_cons, piece.1.inRange]
      rfl

/-- A text is a string when none of its code points is a surrogate. -/
theorem isUnicode_iff_points {text : LooseText} :
    text.isUnicode = true ↔ ∀ point ∈ text.points, isSurrogate point = false := by
  have held := text.any_isSurrogate_points
  constructor
  · intro whole point member
    rw [whole, Bool.not_true, List.any_eq_false] at held
    exact Bool.not_eq_true _ ▸ held point member
  · intro none
    rw [← Bool.not_eq_false', ← held, List.any_eq_false]
    exact fun point member => Bool.not_eq_true _ ▸ none point member

theorem isUnicode_append (first second : LooseText) :
    (first ++ second).isUnicode = (first.isUnicode && second.isUnicode) := by
  rw [Bool.eq_iff_iff, Bool.and_eq_true, isUnicode_iff_points, isUnicode_iff_points,
    isUnicode_iff_points, points_append, List.forall_mem_append]

/-- Every code point of a text is a surrogate or that of a character. -/
theorem point_cases {text : LooseText} {point : Nat} (member : point ∈ text.points) :
    isSurrogate point = true ∨ ∃ c : Char, c.toNat = point := by
  rw [points, List.mem_append, List.mem_map, List.mem_flatMap] at member
  rcases member with ⟨c, -, same⟩ | ⟨⟨surrogate, after⟩, -, member⟩
  · exact .inr ⟨c, same⟩
  · rcases List.mem_cons.mp member with rfl | later
    · exact .inl surrogate.inRange
    · obtain ⟨c, -, same⟩ := List.mem_map.mp later
      exact .inr ⟨c, same⟩

theorem point_lt {text : LooseText} {point : Nat} (member : point ∈ text.points) : point < 0x110000 := by
  rcases point_cases member with lone | ⟨c, rfl⟩
  · rw [isSurrogate, Bool.and_eq_true, decide_eq_true_eq, decide_eq_true_eq] at lone
    omega
  · have valid : c.toNat < 0xd800 ∨ 0xdfff < c.toNat ∧ c.toNat < 0x110000 := c.valid
    omega

/-- Surrogates and the code points of characters, in any order, are those of a text. -/
theorem exists_points {points : List Nat}
    (valid : ∀ point ∈ points, isSurrogate point = true ∨ ∃ c : Char, c.toNat = point) :
    ∃ text : LooseText, text.points = points := by
  induction points with
  | nil => exact ⟨"", rfl⟩
  | cons point rest ih =>
      obtain ⟨first, others⟩ := List.forall_mem_cons.mp valid
      obtain ⟨text, rfl⟩ := ih others
      rcases first with lone | ⟨c, rfl⟩
      · exact ⟨⟨"", [(⟨point, lone⟩, "")]⟩ ++ text, points_append _ _⟩
      · exact ⟨(String.singleton c : LooseText) ++ text, by
          rw [points_append, points_unicode, String.toList_singleton]; rfl⟩

/-- A text that is made up of some of the code points of another one has just these. -/
theorem points_ofPoints_of_subset {text : LooseText} {points : List Nat} (subset : points ⊆ text.points) :
    (ofPoints points).points = points := by
  obtain ⟨made, rfl⟩ := exists_points fun point member => point_cases (subset member)
  rw [ofPoints_points]

@[simp]
theorem points_take (count : Nat) (text : LooseText) : (text.take count).points = text.points.take count :=
  points_ofPoints_of_subset (List.take_subset count text.points)

theorem mark_notMem_afterLast (mark : Char) (text : LooseText) :
    mark.toNat ∉ (text.afterLast mark).points := by
  have part : (text.points.reverse.takeWhile (· != mark.toNat)).reverse ⊆ text.points :=
    fun point member => List.mem_reverse.mp (List.takeWhile_subset _ (List.mem_reverse.mp member))
  rw [afterLast, points_ofPoints_of_subset part, List.mem_reverse]
  intro member
  have other := List.mem_takeWhile_imp (p := (· != mark.toNat)) member
  exact bne_iff_ne.mp other rfl

/-- How a text is shown, by its characters. -/
theorem toList_shown (text : LooseText) : text.shown.toList =
    text.head.toList ++ text.tail.flatMap fun (_, after) => Text.replacement :: after.toList := by
  obtain ⟨head, tail⟩ := text
  change (tail.foldl _ head).toList = _
  induction tail generalizing head with
  | nil => simp
  | cons piece rest ih =>
      rw [List.foldl_cons, ih]
      simp

/-- A surrogate is shown as one character, like every other code point. -/
theorem length_shown (text : LooseText) : text.shown.toList.length = text.points.length := by
  obtain ⟨head, tail⟩ := text
  rw [toList_shown, points]
  simp [List.length_flatMap]

/-- The replacement character shows where a text is not a string. -/
theorem replacement_mem_shown {text : LooseText} (lone : text.isUnicode = false) :
    Text.replacement ∈ text.shown.toList := by
  obtain ⟨head, tail⟩ := text
  cases tail with
  | nil => cases lone
  | cons piece rest =>
      rw [toList_shown, List.flatMap_cons]
      exact List.mem_append_right _ List.mem_cons_self

/-- What holds of the replacement character, and of each character of a changed part, holds of each
character that a text shows when its parts are changed. -/
theorem forall_mem_shown_mapParts {change : String → String} {text : LooseText} {holds : Char → Prop}
    (lone : holds Text.replacement)
    (each : ∀ part : String, (∀ c ∈ part.toList, c.toNat ∈ text.points) →
      ∀ c ∈ (change part).toList, holds c) :
    ∀ c ∈ (text.mapParts change).shown.toList, holds c := by
  intro c member
  rw [toList_shown, mapParts, List.mem_append, List.mem_flatMap] at member
  rcases member with first | ⟨changed, among, later⟩
  · refine each text.head (fun d inside => ?_) c first
    exact List.mem_append_left _ (List.mem_map_of_mem inside)
  · obtain ⟨⟨surrogate, after⟩, present, rfl⟩ := List.mem_map.mp among
    rcases List.mem_cons.mp later with rfl | within
    · exact lone
    · refine each after (fun d inside => ?_) c within
      refine List.mem_append_right _ (List.mem_flatMap.mpr ⟨_, present, ?_⟩)
      exact List.mem_cons_of_mem _ (List.mem_map_of_mem inside)

/-- The part of a string after the last place of a character. -/
theorem afterLast_unicode (mark : Char) (text : String) :
    afterLast mark text = String.ofList (text.toList.reverse.takeWhile (· != mark)).reverse := by
  have compared : ((· != mark.toNat) ∘ Char.toNat) = (· != mark) := by
    funext c
    rw [Function.comp_apply, Bool.eq_iff_iff, bne_iff_ne, bne_iff_ne]
    exact not_congr ⟨fun same => Char.toNat_inj.mp same, congrArg Char.toNat⟩
  rw [afterLast, points_unicode, ← List.map_reverse, List.takeWhile_map, compared, ← List.map_reverse,
    ofPoints_toNat]

end LooseText

end SourceAudit
