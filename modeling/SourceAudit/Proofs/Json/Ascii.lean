import SourceAudit.Proofs.Json.RoundTrip

/-!
# Documents in ASCII

A layout that escapes what is beyond ASCII writes line feeds and printable characters of ASCII, whatever
the strings of a value hold (`inAscii_write`). Each of them is one byte of the document
(`Text.Utf8.encode_of_inAscii`).
-/

namespace SourceAudit.Json

open Decimal (Binary64)

/-- A line feed, or a printable character of ASCII: what a document on disk is made of. -/
def InAscii (c : Char) : Prop :=
  c = '\n' ∨ 0x20 ≤ c.toNat ∧ c.toNat < 0x7f

instance (c : Char) : Decidable (InAscii c) :=
  inferInstanceAs (Decidable (_ ∨ _))

/-- A given text is looked through. -/
theorem inAscii_of_all {text : List Char} (all : (text.all fun c => decide (InAscii c)) = true) :
    ∀ c ∈ text, InAscii c :=
  fun c member => of_decide_eq_true (List.all_eq_true.mp all c member)

theorem inAscii_replicate {c : Char} (ascii : InAscii c) (count : Nat) :
    ∀ d ∈ List.replicate count c, InAscii d := by
  intro d member
  rw [List.eq_of_mem_replicate member]
  exact ascii

theorem inAscii_of_isDigit {c : Char} (digit : c.isDigit = true) : InAscii c := by
  obtain ⟨least, most⟩ : 48 ≤ c.toNat ∧ c.toNat ≤ 57 := Char.isDigit_iff_toNat.mp digit
  exact .inr ⟨by omega, by omega⟩

theorem inAscii_natText (n : Nat) : ∀ c ∈ (Decimal.natText n).toList, InAscii c := by
  intro c member
  rw [Decimal.natText, String.toList_ofList] at member
  exact inAscii_of_isDigit (Decimal.isDigit_toDigits n c member)

theorem inAscii_intText (number : Int) : ∀ c ∈ (Decimal.intText number).toList, InAscii c := by
  cases number with
  | ofNat n => exact inAscii_natText n
  | negSucc n =>
      rw [Decimal.intText, String.toList_append, List.forall_mem_append]
      exact ⟨inAscii_of_all (by decide), inAscii_natText (n + 1)⟩

section Floats

variable {digits : List Char}

/-- A point is placed among digits, or among zeros beside them. -/
theorem inAscii_placePoint (written : ∀ c ∈ digits, InAscii c) (places : Int) :
    ∀ c ∈ Decimal.placePoint digits places, InAscii c := by
  have zeros := inAscii_replicate (show InAscii '0' by decide)
  unfold Decimal.placePoint
  split
  · rw [List.forall_mem_cons, List.forall_mem_cons, List.forall_mem_append]
    exact ⟨by decide, by decide, zeros _, written⟩
  · dsimp only
    split
    · rw [List.forall_mem_append, List.forall_mem_append]
      exact ⟨⟨written, zeros _⟩, inAscii_of_all (by decide)⟩
    · rw [List.forall_mem_append, List.forall_mem_cons]
      exact ⟨fun c member => written c (List.mem_of_mem_take member), by decide,
        fun c member => written c (List.mem_of_mem_drop member)⟩

theorem inAscii_scientific (style : Decimal.NumberStyle) (number : Decimal.Scientific) :
    ∀ c ∈ number.text style, InAscii c := by
  have written : ∀ c ∈ Nat.toDigits 10 number.digits, InAscii c :=
    fun c member => inAscii_of_isDigit (Decimal.isDigit_toDigits _ c member)
  unfold Decimal.Scientific.text
  generalize Nat.toDigits 10 number.digits = digits at written
  dsimp only
  split
  · exact inAscii_placePoint written _
  · rw [List.forall_mem_append, List.forall_mem_cons, List.forall_mem_cons]
    refine ⟨?_, by decide, ?_, ?_⟩
    · split
      · rw [List.forall_mem_cons] at written ⊢
        rw [List.forall_mem_cons]
        exact ⟨written.1, by decide, written.2⟩
      · exact written
    · split <;> decide
    · exact fun c member => inAscii_of_isDigit (Decimal.isDigit_paddedText _ _ c member)

theorem inAscii_writeFloat (number : Binary64) : ∀ c ∈ writeFloat number, InAscii c := by
  cases number with
  | nan => exact inAscii_of_all (by decide)
  | infinite negative =>
      cases negative with
      | false => exact inAscii_of_all (by decide)
      | true => exact inAscii_of_all (by decide)
  | finite negative mantissa exponent =>
      have unsigned : ∀ c ∈ if mantissa = 0 then ['0', '.', '0']
          else (Decimal.shortest mantissa exponent).text Decimal.plainStyle, InAscii c := by
        split
        · exact inAscii_of_all (by decide)
        · exact inAscii_scientific Decimal.plainStyle _
      have text : writeFloat (.finite negative mantissa exponent) =
          (Binary64.finite negative mantissa exponent).text.toList := rfl
      rw [text, Binary64.text, String.toList_ofList]
      split
      · exact List.forall_mem_cons.mpr ⟨by decide, unsigned⟩
      · exact unsigned

end Floats

section Strings

theorem inAscii_unitEscape (unit : Nat) : ∀ c ∈ unitEscape unit, InAscii c := by
  have digits : ∀ digit < 16, InAscii (Nat.digitChar digit) := by decide
  rw [unitEscape, List.forall_mem_cons, List.forall_mem_cons]
  refine ⟨by decide, by decide, ?_⟩
  intro c member
  obtain ⟨place, -, rfl⟩ := List.mem_map.mp member
  exact digits _ (Nat.mod_lt _ (by decide))

theorem inAscii_pointEscape (point : Nat) : ∀ c ∈ pointEscape point, InAscii c := by
  unfold pointEscape
  split
  · exact inAscii_unitEscape point
  · exact List.forall_mem_append.mpr ⟨inAscii_unitEscape _, inAscii_unitEscape _⟩

/-- Whatever code point a string holds, it is written in ASCII: what has no escape is printable there. -/
theorem inAscii_writePoint (point : Nat) : ∀ c ∈ writePoint true point, InAscii c := by
  obtain ⟨kind, listed, written⟩ | ⟨written, -⟩ | ⟨written, least, -, -, most⟩ :=
    writePoint_cases true point
  · have kinds : ∀ escape ∈ shortEscapes, InAscii escape.2 := by decide
    rw [written, List.forall_mem_cons, List.forall_mem_singleton]
    exact ⟨by decide, kinds _ listed⟩
  · rw [written]
    exact inAscii_pointEscape point
  · have below := most rfl
    have valid : point.isValidChar := .inl (by omega)
    have value : (Char.ofNat point).toNat = point := by
      rw [Char.ofNat, dif_pos valid]
      rfl
    rw [written, List.forall_mem_singleton, InAscii, value]
    exact .inr ⟨least, below⟩

theorem inAscii_writePoints (points : List Nat) : ∀ c ∈ writePoints true points, InAscii c := by
  rw [writePoints, List.forall_mem_cons, List.forall_mem_append]
  refine ⟨by decide, ?_, inAscii_of_all (by decide)⟩
  intro c member
  obtain ⟨point, -, written⟩ := List.mem_flatMap.mp member
  exact inAscii_writePoint point c written

end Strings

/-- A layout that escapes what is beyond ASCII, and has nothing else between the parts. The layout
of documents on disk is one. -/
structure Layout.IsAscii (layout : Layout) : Prop where
  escapes : layout.asciiOnly = true
  gap : ∀ c ∈ layout.gap, InAscii c
  colonGap : ∀ c ∈ layout.colonGap, InAscii c

theorem Layout.isAscii_indented : Layout.indented.IsAscii :=
  ⟨rfl, inAscii_of_all (by decide), inAscii_of_all (by decide)⟩

section Values

variable {layout : Layout}

theorem Layout.inAscii_lineBreak (layout : Layout) (level : Nat) :
    ∀ c ∈ layout.lineBreak level, InAscii c := by
  unfold lineBreak
  split
  · exact List.forall_mem_nil _
  · exact List.forall_mem_cons.mpr ⟨by decide, inAscii_replicate (by decide) _⟩

theorem inAscii_writeGroup (ascii : layout.IsAscii) (level : Nat) {opening closing : Char}
    (opens : InAscii opening) (closes : InAscii closing) {parts : List (List Char)}
    (written : ∀ part ∈ parts, ∀ c ∈ part, InAscii c) :
    ∀ c ∈ writeGroup layout level opening closing parts, InAscii c := by
  cases parts with
  | nil =>
      rw [writeGroup, if_pos List.isEmpty_nil, List.forall_mem_cons, List.forall_mem_singleton]
      exact ⟨opens, closes⟩
  | cons first others =>
      rw [List.forall_mem_cons] at written
      have separated : ∀ c ∈ others.flatMap
          (',' :: (layout.gap ++ layout.lineBreak (level + 1)) ++ ·), InAscii c := by
        have each (part : List Char) (listed : part ∈ others) :
            ∀ c ∈ ',' :: (layout.gap ++ layout.lineBreak (level + 1)) ++ part, InAscii c := by
          rw [List.cons_append, List.forall_mem_cons, List.forall_mem_append, List.forall_mem_append]
          exact ⟨by decide, ⟨ascii.gap, layout.inAscii_lineBreak _⟩, written.2 part listed⟩
        intro c member
        obtain ⟨part, listed, member⟩ := List.mem_flatMap.mp member
        exact each part listed c member
      rw [writeGroup_cons, List.forall_mem_cons, List.forall_mem_append, List.forall_mem_append,
        List.forall_mem_append, List.forall_mem_append, List.forall_mem_singleton]
      exact ⟨opens, layout.inAscii_lineBreak _, written.1, separated, layout.inAscii_lineBreak _, closes⟩

mutual

/-- **A layout in ASCII writes every value in ASCII.** -/
theorem inAscii_write (ascii : layout.IsAscii) (level : Nat) :
    (value : Json) → ∀ c ∈ write layout level value, InAscii c
  | .null => by
      rw [write]
      exact inAscii_of_all (by decide)
  | .bool value => by
      rw [write]
      cases value with
      | false => exact inAscii_of_all (by decide)
      | true => exact inAscii_of_all (by decide)
  | .int value => by
      rw [write]
      exact inAscii_intText value
  | .float value => by
      rw [write]
      exact inAscii_writeFloat value
  | .str value => by
      rw [write, writeString, ascii.escapes]
      exact inAscii_writePoints _
  | .arr items => by
      rw [write]
      exact inAscii_writeGroup ascii level (by decide) (by decide)
        (inAscii_writeItems ascii (level + 1) items)
  | .obj members => by
      rw [write]
      exact inAscii_writeGroup ascii level (by decide) (by decide)
        (inAscii_writeMembers ascii (level + 1) members)

theorem inAscii_writeItems (ascii : layout.IsAscii) (level : Nat) :
    (items : List Json) → ∀ part ∈ writeItems layout level items, ∀ c ∈ part, InAscii c
  | [] => List.forall_mem_nil _
  | item :: rest => by
      rw [writeItems, List.forall_mem_cons]
      exact ⟨inAscii_write ascii level item, inAscii_writeItems ascii level rest⟩

theorem inAscii_writeMembers (ascii : layout.IsAscii) (level : Nat) :
    (members : List (LooseText × Json)) →
      ∀ part ∈ writeMembers layout level members, ∀ c ∈ part, InAscii c
  | [] => List.forall_mem_nil _
  | (name, value) :: rest => by
      rw [writeMembers, List.forall_mem_cons, List.forall_mem_append, List.forall_mem_append,
        List.forall_mem_cons, writeString, ascii.escapes]
      exact ⟨⟨⟨inAscii_writePoints _, by decide, ascii.colonGap⟩, inAscii_write ascii level value⟩,
        inAscii_writeMembers ascii level rest⟩

end

end Values

end SourceAudit.Json

namespace SourceAudit.Text.Utf8

/-- A text in ASCII has one byte for each of its characters. -/
theorem encode_of_inAscii {text : List Char} (ascii : ∀ c ∈ text, Json.InAscii c) :
    encode text = text.map fun c => c.toNat.toUInt8 := by
  induction text with
  | nil => rfl
  | cons c rest ih =>
      rw [List.forall_mem_cons] at ascii
      have small : c.toNat < 0x80 := by
        rcases ascii.1 with rfl | printable
        · decide
        · omega
      rw [encode, List.flatMap_cons, encodeChar, if_pos small, List.map_cons, ← encode, ih ascii.2,
        List.singleton_append]

end SourceAudit.Text.Utf8
