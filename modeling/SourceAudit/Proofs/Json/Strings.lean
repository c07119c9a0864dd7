import SourceAudit.Json.Layout
import SourceAudit.Json.Parser
import SourceAudit.Proofs.Text.Loose
import Mathlib.Tactic.Conv
import Mathlib.Tactic.ByCases

/-!
# Strings read back

A string of a document reads as the text it writes, whatever stands before and after it. A reader
takes each character as one part, or as two units where it is written as a surrogate pair
(`readParts_writePoint`), and joining the units gives its code point back. A lone surrogate is written
too, but a reader would join it with a partner that another string part puts beside it, so only Unicode
text is sure to come back (`readString_writePoints`).
-/

namespace SourceAudit.Json

variable {marks : Marks} {opening : Nat} {done : List StringPart} {next : Char} {later : List Char}
  {asciiOnly : Bool}

/-- A hexadecimal digit has the value that it writes. -/
theorem hexValue?_digitChar : ∀ digit, digit < 16 →
    Text.hexValue? (Nat.digitChar digit) = some digit := by
  decide

theorem hexDigits_four (unit : Nat) : Text.hexDigits 4 unit =
    [Nat.digitChar (unit / 4096 % 16), Nat.digitChar (unit / 256 % 16),
      Nat.digitChar (unit / 16 % 16), Nat.digitChar (unit % 16)] := by
  have places : (List.range 4).reverse = [3, 2, 1, 0] := by decide
  simp [Text.hexDigits, places]

/-- An escape is read as the unit it writes. -/
theorem readParts_unitEscape {unit : Nat} (small : unit < 0x10000) :
    readParts marks opening done (unitEscape unit ++ next :: later) =
      readParts marks opening (.unit unit :: done) (next :: later) := by
  have value : hexUnit? (Nat.digitChar (unit / 4096 % 16)) (Nat.digitChar (unit / 256 % 16))
      (Nat.digitChar (unit / 16 % 16)) (Nat.digitChar (unit % 16)) = some unit := by
    have sum : ((unit / 4096 % 16 * 16 + unit / 256 % 16) * 16 + unit / 16 % 16) * 16 + unit % 16 =
        unit := by omega
    rw [hexUnit?, hexValue?_digitChar _ (Nat.mod_lt _ (by decide)),
      hexValue?_digitChar _ (Nat.mod_lt _ (by decide)),
      hexValue?_digitChar _ (Nat.mod_lt _ (by decide)),
      hexValue?_digitChar _ (Nat.mod_lt _ (by decide))]
    exact congrArg some sum
  rw [unitEscape, hexDigits_four]
  simp only [List.cons_append, List.nil_append]
  rw [readParts.eq_def]
  simp only [if_neg (show '\\' ≠ '"' by decide), if_true, value]

/-- A short escape is read as the character it stands for. -/
theorem readParts_shortEscape {kind : Char} {point : Nat} (short : shortEscape? kind = some point)
    (other : kind ≠ 'u') :
    readParts marks opening done ('\\' :: kind :: next :: later) =
      readParts marks opening (.plain point :: done) (next :: later) := by
  rw [readParts.eq_def]
  simp only [if_neg (show '\\' ≠ '"' by decide), if_true, if_neg other, short]

theorem plainPoint_nil (c : Char) (rest : List Char) : plainPoint [] c rest = c.toNat :=
  ite_self _

/-- A character that needs no escape is read as it is, where a decoder has passed nothing on. -/
theorem readParts_plain {c : Char} (notQuote : c ≠ '"') (notEscape : c ≠ '\\')
    (printable : ¬ c.toNat < 0x20) :
    readParts [] opening done (c :: next :: later) =
      readParts [] opening (.plain c.toNat :: done) (next :: later) := by
  rw [readParts.eq_def]
  simp only [if_neg notQuote, if_neg notEscape, if_neg printable, plainPoint_nil]

/-- Parts that a reader makes of one character: whatever parts follow them, they are joined to its code
point. -/
def Spells (parts : List StringPart) (c : Char) : Prop :=
  ∀ others, joinUnits (parts ++ others) = c.toNat :: joinUnits others

theorem spells_plain (c : Char) : Spells [.plain c.toNat] c :=
  fun _ => rfl

/-- The unit of a character is no half of a pair, so it stands alone. -/
theorem spells_unit (c : Char) : Spells [.unit c.toNat] c := by
  intro others
  have valid : c.toNat < 0xd800 ∨ 0xdfff < c.toNat ∧ c.toNat < 0x110000 := c.valid
  obtain _ | ⟨point | low, others⟩ := others
  · rfl
  · rfl
  · rw [List.singleton_append, joinUnits, if_neg (by omega)]

theorem spells_pair {c : Char} (large : 0x10000 ≤ c.toNat) :
    Spells [.unit (0xd800 + (c.toNat - 0x10000) / 0x400),
      .unit (0xdc00 + (c.toNat - 0x10000) % 0x400)] c := by
  intro others
  have valid : c.toNat < 0xd800 ∨ 0xdfff < c.toNat ∧ c.toNat < 0x110000 := c.valid
  have joined : 0x10000 + (0xd800 + (c.toNat - 0x10000) / 0x400 - 0xd800) * 0x400 +
      (0xdc00 + (c.toNat - 0x10000) % 0x400 - 0xdc00) = c.toNat := by omega
  simp only [List.cons_append, List.nil_append]
  rw [joinUnits, if_pos (by omega), joined]

/-- A code point that is escaped is read as its units. -/
theorem readParts_pointEscape (c : Char) (opening : Nat) (next : Char) (later : List Char) :
    ∃ parts, Spells parts c ∧ ∀ done,
      readParts marks opening done (pointEscape c.toNat ++ next :: later) =
        readParts marks opening (parts.reverse ++ done) (next :: later) := by
  have bound : c.toNat < 0x110000 := by
    rcases c.valid with below | ⟨-, above⟩
    · exact Nat.lt_trans below (by decide)
    · exact above
  by_cases small : c.toNat < 0x10000
  · refine ⟨_, spells_unit c, fun done => ?_⟩
    rw [pointEscape, if_pos small, readParts_unitEscape small]
    rfl
  · refine ⟨_, spells_pair (Nat.not_lt.mp small), fun done => ?_⟩
    have second : unitEscape (0xdc00 + (c.toNat - 0x10000) % 0x400) =
        '\\' :: 'u' :: Text.hexDigits 4 (0xdc00 + (c.toNat - 0x10000) % 0x400) := rfl
    rw [pointEscape, if_neg small, List.append_assoc]
    -- The first escape is followed by the backslash of the second one.
    conv_lhs => rw [second]
    rw [List.cons_append, readParts_unitEscape (by omega), ← List.cons_append, ← second,
      readParts_unitEscape (by omega)]
    rfl

/-- The code points with a short escape, each with the character after its backslash. -/
def shortEscapes : List (Nat × Char) :=
  [('"'.toNat, '"'), ('\\'.toNat, '\\'), ('\n'.toNat, 'n'), ('\r'.toNat, 'r'), ('\t'.toNat, 't'),
    (8, 'b'), (12, 'f')]

theorem shortEscape?_of_mem : ∀ escape ∈ shortEscapes,
    shortEscape? escape.2 = some escape.1 ∧ escape.2 ≠ 'u' ∧ escape.1 < 0x80 := by
  decide

/-- A code point is written as a short escape, as a numeric one, or as it is. -/
theorem writePoint_cases (asciiOnly : Bool) (point : Nat) :
    (∃ kind, (point, kind) ∈ shortEscapes ∧ writePoint asciiOnly point = ['\\', kind]) ∨
    (writePoint asciiOnly point = pointEscape point ∧
      (point < 0x20 ∨ (0xd800 ≤ point ∧ point < 0xe000) ∨ asciiOnly = true)) ∨
    (writePoint asciiOnly point = [Char.ofNat point] ∧ 0x20 ≤ point ∧ point ≠ '"'.toNat ∧
      point ≠ '\\'.toNat ∧ (asciiOnly = true → point < 0x7f)) := by
  rw [writePoint]
  by_cases quote : point = '"'.toNat
  · exact .inl ⟨'"', by simp [shortEscapes, quote], if_pos quote⟩
  rw [if_neg quote]
  by_cases escape : point = '\\'.toNat
  · exact .inl ⟨'\\', by simp [shortEscapes, escape], if_pos escape⟩
  rw [if_neg escape]
  by_cases feed : point = '\n'.toNat
  · exact .inl ⟨'n', by simp [shortEscapes, feed], if_pos feed⟩
  rw [if_neg feed]
  by_cases carriage : point = '\r'.toNat
  · exact .inl ⟨'r', by simp [shortEscapes, carriage], if_pos carriage⟩
  rw [if_neg carriage]
  by_cases tab : point = '\t'.toNat
  · exact .inl ⟨'t', by simp [shortEscapes, tab], if_pos tab⟩
  rw [if_neg tab]
  by_cases backspace : point = 8
  · exact .inl ⟨'b', by simp [shortEscapes, backspace], if_pos backspace⟩
  rw [if_neg backspace]
  by_cases formFeed : point = 12
  · exact .inl ⟨'f', by simp [shortEscapes, formFeed], if_pos formFeed⟩
  rw [if_neg formFeed]
  refine .inr ?_
  by_cases control : point < 0x20
  · exact .inl ⟨if_pos control, .inl control⟩
  rw [if_neg control]
  by_cases surrogate : 0xd800 ≤ point ∧ point < 0xe000
  · exact .inl ⟨if_pos surrogate, .inr (.inl surrogate)⟩
  rw [if_neg surrogate]
  by_cases beyond : (asciiOnly && decide (0x7f ≤ point)) = true
  · exact .inl ⟨if_pos beyond, .inr (.inr (Bool.and_eq_true_iff.mp beyond).1)⟩
  · refine .inr ⟨if_neg beyond, Nat.not_lt.mp control, quote, escape, ?_⟩
    rintro rfl
    rw [Bool.true_and, decide_eq_true_eq, Nat.not_le] at beyond
    exact beyond

/-- A character in a string is read as parts that spell it. -/
theorem readParts_writePoint (asciiOnly : Bool) (c : Char) (opening : Nat) (next : Char)
    (later : List Char) :
    ∃ parts, Spells parts c ∧ ∀ done,
      readParts [] opening done (writePoint asciiOnly c.toNat ++ next :: later) =
        readParts [] opening (parts.reverse ++ done) (next :: later) := by
  obtain ⟨kind, listed, written⟩ | ⟨written, -⟩ | ⟨written, printable, quote, escape, -⟩ :=
    writePoint_cases asciiOnly c.toNat
  · obtain ⟨meaning, other, -⟩ := shortEscape?_of_mem _ listed
    rw [written]
    exact ⟨_, spells_plain c, fun done => readParts_shortEscape meaning other⟩
  · rw [written]
    exact readParts_pointEscape c opening next later
  · rw [written, Char.ofNat_toNat]
    refine ⟨_, spells_plain c, fun done => ?_⟩
    exact readParts_plain (fun same => quote (by rw [same])) (fun same => escape (by rw [same]))
      (Nat.not_lt.mpr printable)

/-- **A string is read as the text it writes.** -/
theorem readString_writePoints {text : LooseText} (whole : text.isUnicode = true) (asciiOnly : Bool)
    (opening : Nat) (rest : List Char) :
    readString [] opening (text.points.flatMap (writePoint asciiOnly) ++ '"' :: rest) =
      .ok (text, rest) := by
  obtain ⟨plain, rfl⟩ := LooseText.isUnicode_iff.mp whole
  have spelled (chars : List Char) :
      ∃ parts, joinUnits parts = chars.map Char.toNat ∧ ∀ done,
        readParts [] opening done
            ((chars.map Char.toNat).flatMap (writePoint asciiOnly) ++ '"' :: rest) =
          .ok (done.reverse ++ parts, rest) := by
    induction chars with
    | nil =>
        refine ⟨[], rfl, fun done => ?_⟩
        rw [List.append_nil]
        unfold readParts
        rfl
    | cons c chars ih =>
        obtain ⟨parts, joined, read⟩ := ih
        obtain ⟨next, later, follows⟩ : ∃ next later,
            (chars.map Char.toNat).flatMap (writePoint asciiOnly) ++ '"' :: rest = next :: later :=
          List.exists_cons_of_ne_nil (by simp)
        obtain ⟨own, spells, step⟩ := readParts_writePoint asciiOnly c opening next later
        refine ⟨own ++ parts, ?_, fun done => ?_⟩
        · rw [spells, joined, List.map_cons]
        · rw [List.map_cons, List.flatMap_cons, List.append_assoc, follows, step, ← follows, read,
            List.reverse_append, List.reverse_reverse, List.append_assoc]
  obtain ⟨parts, joined, read⟩ := spelled plain.toList
  rw [readString, LooseText.points_unicode, read, List.reverse_nil, List.nil_append]
  simp only
  rw [joined, LooseText.ofPoints_toNat, String.ofList_toList]

end SourceAudit.Json
