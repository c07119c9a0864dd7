import SourceAudit.Proofs.Json.Numbers
import SourceAudit.Proofs.Json.Strings
import SourceAudit.Proofs.Text.Runs
import SourceAudit.Proofs.Text.Utf8

/-!
# Documents read back

A value that is written and read again is the same value, in every layout whose gaps are blank. Left
out are floating-point numbers, and strings and names that hold lone surrogates; whole numbers must be
short enough to be written, names of members distinct, and brackets nested no deeper than the reader
allows (`isPlain`).
What is shown of a part is that it reads back before any text that does not continue a number
(`ReadsBack`): arrays and objects then follow from their parts, and a document is one such value
(`readDocument_write`).
-/

namespace SourceAudit.Json

mutual

/-- Whether a value, with brackets nested at most `depth` deep, is one that is read as it is
written. -/
def isPlain (depth : Nat) : Json → Bool
  | .null | .bool _ => true
  | .int value => Decimal.isWritable value.natAbs
  | .float _ => false
  | .str value => value.isUnicode
  | .arr items => decide (0 < depth) && arePlain (depth - 1) items
  | .obj members =>
    decide (0 < depth) && decide (members.map (·.1)).Nodup && membersArePlain (depth - 1) members

/-- Whether all items are read as they are written. -/
def arePlain (depth : Nat) : List Json → Bool
  | [] => true
  | item :: rest => item.isPlain depth && arePlain depth rest

/-- Whether the names and the values of all members are read as they are written. -/
def membersArePlain (depth : Nat) : List (LooseText × Json) → Bool
  | [] => true
  | (name, value) :: rest => name.isUnicode && value.isPlain depth && membersArePlain depth rest

end

theorem arePlain_iff {depth : Nat} {items : List Json} :
    arePlain depth items = true ↔ ∀ item ∈ items, item.isPlain depth = true := by
  induction items with
  | nil => simp [arePlain]
  | cons item rest ih => simp [arePlain, ih]

theorem membersArePlain_iff {depth : Nat} {members : Members} :
    membersArePlain depth members = true ↔
      ∀ member ∈ members, member.1.isUnicode = true ∧ member.2.isPlain depth = true := by
  induction members with
  | nil => simp [membersArePlain]
  | cons member rest ih =>
      obtain ⟨name, value⟩ := member
      simp [membersArePlain, ih, and_assoc]

/-- A layout that puts nothing but blanks between the parts of a document. All layouts in use are
such, and a reader does not tell them apart. -/
structure Layout.IsBlank (layout : Layout) : Prop where
  gap : ∀ c ∈ layout.gap, isSpace c = true
  colonGap : ∀ c ∈ layout.colonGap, isSpace c = true

theorem Layout.isSpace_lineBreak (layout : Layout) (level : Nat) :
    ∀ c ∈ layout.lineBreak level, isSpace c = true := by
  intro c member
  unfold lineBreak at member
  split at member
  next => cases member
  next =>
    rcases List.mem_cons.mp member with rfl | space
    · decide
    · rw [List.eq_of_mem_replicate space]
      decide

/-- Between two parts there is nothing but blanks. -/
theorem Layout.IsBlank.between {layout : Layout} (blank : layout.IsBlank) (level : Nat) :
    ∀ c ∈ layout.gap ++ layout.lineBreak level, isSpace c = true := by
  intro c member
  rcases List.mem_append.mp member with inGap | inBreak
  · exact blank.gap c inGap
  · exact layout.isSpace_lineBreak level c inBreak

theorem Layout.isBlank_indented : Layout.indented.IsBlank := by
  constructor <;> simp [Layout.indented, isSpace]

theorem Layout.isBlank_spaced : Layout.spaced.IsBlank := by
  constructor <;> simp [Layout.spaced, isSpace]

/-- Blanks before a part are passed over. -/
theorem skipSpace_append {blanks rest : List Char} {c : Char}
    (blank : ∀ c ∈ blanks, isSpace c = true) (other : isSpace c = false) :
    skipSpace (blanks ++ c :: rest) = c :: rest :=
  Text.dropWhile_run blank other

theorem skipSpace_solid {rest : List Char} {c : Char} (other : isSpace c = false) :
    skipSpace (c :: rest) = c :: rest :=
  List.dropWhile_cons_of_neg (by simp [other])

theorem isSpace_iff {c : Char} : isSpace c = true ↔ c ∈ [' ', '\t', '\n', '\r'] := by
  simp [isSpace, or_assoc]

/-- Blanks end a number, and so does what may follow them after it. -/
theorem endsNumber_append {blanks rest : List Char} (blank : ∀ c ∈ blanks, isSpace c = true)
    (ends : EndsNumber rest) : EndsNumber (blanks ++ rest) := by
  cases blanks with
  | nil => exact ends
  | cons c others =>
      have ends : ∀ c ∈ [' ', '\t', '\n', '\r'],
          c.isDigit = false ∧ c ≠ '.' ∧ c ≠ 'e' ∧ c ≠ 'E' := by simp
      exact endsNumber_cons (ends c (isSpace_iff.mp (blank c List.mem_cons_self)))

/-- A written part that is read as a value: it starts neither with a blank nor with the end of an
array, and what follows it is left. -/
structure ReadsBack (depth : Nat) (written : List Char) (value : Json) : Prop where
  starts : ∃ c rest, written = c :: rest ∧ isSpace c = false ∧ c ≠ ']'
  reads : ∀ steps rest, EndsNumber rest → 2 * written.length ≤ steps + 1 →
    readValue [] steps depth (written ++ rest) = .ok (value, rest)

theorem intercalate_eq_flatMap (separator first : List Char) (others : List (List Char)) :
    List.intercalate separator (first :: others) = first ++ others.flatMap (separator ++ ·) := by
  induction others generalizing first with
  | nil => rw [List.intercalate_singleton, List.flatMap_nil, List.append_nil]
  | cons next others ih =>
      rw [List.intercalate_cons_cons, ih, List.flatMap_cons, List.append_assoc, List.append_assoc]

section Groups

variable {depth : Nat} {separator ending : List Char}

/-- Items between commas are read as the items. -/
theorem readItems_written (between : ∀ c ∈ separator, isSpace c = true)
    (last : ∀ c ∈ ending, isSpace c = true) (rest : List Char) {written : Json → List Char}
    {item : Json} {others : List Json}
    (each : ∀ value ∈ item :: others, ReadsBack depth (written value) value)
    (done : List Json) (steps : Nat)
    (enough : 2 * (written item ++
      (others.map written).flatMap (',' :: separator ++ ·)).length ≤ steps) :
    readItems [] steps depth done
        (written item ++ ((others.map written).flatMap (',' :: separator ++ ·) ++
          (ending ++ ']' :: rest))) =
      .ok (.arr (done.reverse ++ item :: others), rest) := by
  induction others generalizing item done steps with
  | nil =>
      have back := each item List.mem_cons_self
      obtain ⟨c, tail, split, -, -⟩ := back.starts
      rw [List.map_nil, List.flatMap_nil, List.append_nil] at enough
      have present : 0 < (written item).length := by
        rw [split]
        exact Nat.zero_lt_succ tail.length
      obtain ⟨steps, rfl⟩ : ∃ fewer, steps = fewer + 1 := ⟨steps - 1, by omega⟩
      have ends : EndsNumber (ending ++ ']' :: rest) :=
        endsNumber_append last (endsNumber_cons (by decide))
      rw [List.map_nil, List.flatMap_nil, List.nil_append, readItems,
        back.reads steps _ ends (by omega)]
      simp only [skipSpace_append last (show isSpace ']' = false by decide), List.reverse_cons]
  | cons next others ih =>
      have back := each item List.mem_cons_self
      obtain ⟨c, tail, split, -, -⟩ := back.starts
      obtain ⟨first, nextTail, nextSplit, solid, -⟩ :=
        (each next (List.mem_cons_of_mem _ List.mem_cons_self)).starts
      rw [List.map_cons, List.flatMap_cons] at enough ⊢
      simp only [List.length_append, List.length_cons] at enough
      obtain ⟨steps, rfl⟩ : ∃ fewer, steps = fewer + 1 := ⟨steps - 1, by omega⟩
      have more := ih (fun value member => each value (List.mem_cons_of_mem _ member))
        (item :: done) steps (by simp only [List.length_append]; omega)
      rw [List.append_assoc, List.append_assoc, List.cons_append, readItems,
        back.reads steps _ (endsNumber_cons (by decide)) (by omega)]
      have comma (follows : List Char) : skipSpace (',' :: follows) = ',' :: follows := rfl
      have resumes (follows : List Char) :
          skipSpace (separator ++ (written next ++ follows)) = written next ++ follows := by
        rw [nextSplit]
        exact skipSpace_append between solid
      simp only [comma, resumes]
      rw [more, List.reverse_cons, List.append_assoc, List.singleton_append]

/-- A member as it is written. -/
def writtenMember (asciiOnly : Bool) (colonGap : List Char) (written : Json → List Char)
    (member : LooseText × Json) : List Char :=
  writeString asciiOnly member.1 ++ ':' :: colonGap ++ written member.2

variable {asciiOnly : Bool} {colonGap : List Char} {written : Json → List Char}

theorem put_eq_append {members : Members} {name : LooseText} (fresh : name ∉ members.map (·.1))
    (value : Json) : members.put name value = members ++ [(name, value)] := by
  have absent : ¬ (members.any (·.1 == name)) = true := by
    rw [List.any_eq_true]
    rintro ⟨member, present, same⟩
    exact fresh (List.mem_map.mpr ⟨member, present, beq_iff_eq.mp same⟩)
  rw [Members.put, if_neg absent]

/-- What a reader makes of the text after a member, with the members read so far: more members after
a comma, or the object at a brace. -/
def afterMember (steps depth : Nat) (members : Members) (text : List Char) : Reading Json :=
  match skipSpace text with
  | ',' :: rest => readMembers [] steps depth members (skipSpace rest)
  | '\x7d' :: rest => .ok (.obj members, rest)
  | rest => .error (.at .expectingComma rest.length)

/-- A member is read and put behind those before it. -/
theorem readMembers_writtenMember (colonBlank : ∀ c ∈ colonGap, isSpace c = true)
    {member : LooseText × Json} (named : member.1.isUnicode = true)
    (back : ReadsBack depth (written member.2) member.2)
    {done : Members} (fresh : member.1 ∉ done.map (·.1)) {follows : List Char}
    (ends : EndsNumber follows) {steps : Nat} (enough : 2 * (written member.2).length ≤ steps + 1) :
    readMembers [] (steps + 1) depth done
        (writtenMember asciiOnly colonGap written member ++ follows) =
      afterMember steps depth (done ++ [member]) follows := by
  obtain ⟨name, value⟩ := member
  obtain ⟨c, tail, split, solid, -⟩ := back.starts
  have opened : writtenMember asciiOnly colonGap written (name, value) ++ follows =
      '"' :: (name.points.flatMap (writePoint asciiOnly) ++
        '"' :: (':' :: (colonGap ++ (written value ++ follows)))) := by
    simp [writtenMember, writeString, writePoints]
  have colon (text : List Char) : skipSpace (':' :: text) = ':' :: text := rfl
  have resumes : skipSpace (colonGap ++ (written value ++ follows)) = written value ++ follows := by
    rw [split]
    exact skipSpace_append colonBlank solid
  rw [opened, readMembers]
  simp only [readString_writePoints named, colon, resumes, back.reads steps follows ends enough,
    put_eq_append fresh]
  rfl

/-- A reader with steps for a whole member has one for the member and enough for its value. -/
theorem exists_steps {member : LooseText × Json} {steps : Nat}
    (enough : 2 * (writtenMember asciiOnly colonGap written member).length ≤ steps) :
    ∃ fewer, steps = fewer + 1 ∧ 2 * (written member.2).length ≤ fewer + 1 := by
  simp only [writtenMember, writeString, writePoints, List.length_append, List.length_cons] at enough
  exact ⟨steps - 1, by omega, by omega⟩

/-- Members between commas are read as the members, where no name is repeated. -/
theorem readMembers_written (asciiOnly : Bool) (colonBlank : ∀ c ∈ colonGap, isSpace c = true)
    (between : ∀ c ∈ separator, isSpace c = true) (last : ∀ c ∈ ending, isSpace c = true)
    (rest : List Char) {member : LooseText × Json} {others : Members}
    (each : ∀ entry ∈ member :: others,
      entry.1.isUnicode = true ∧ ReadsBack depth (written entry.2) entry.2)
    (done : Members) (distinct : ((done ++ member :: others).map (·.1)).Nodup) (steps : Nat)
    (enough : 2 * (writtenMember asciiOnly colonGap written member ++
      (others.map (writtenMember asciiOnly colonGap written)).flatMap
        (',' :: separator ++ ·)).length ≤ steps) :
    readMembers [] steps depth done
        (writtenMember asciiOnly colonGap written member ++
          ((others.map (writtenMember asciiOnly colonGap written)).flatMap (',' :: separator ++ ·) ++
            (ending ++ '\x7d' :: rest))) =
      .ok (.obj (done ++ member :: others), rest) := by
  have fresh {done others : Members} {member : LooseText × Json}
      (distinct : ((done ++ member :: others).map (·.1)).Nodup) : member.1 ∉ done.map (·.1) := by
    rw [List.map_append, List.nodup_append] at distinct
    intro present
    exact distinct.2.2 _ present _ (List.mem_map_of_mem List.mem_cons_self) rfl
  induction others generalizing member done steps with
  | nil =>
      obtain ⟨named, back⟩ := each member List.mem_cons_self
      have ends : EndsNumber (ending ++ '\x7d' :: rest) :=
        endsNumber_append last (endsNumber_cons (by decide))
      rw [List.map_nil, List.flatMap_nil, List.append_nil] at enough
      obtain ⟨steps, rfl, inside⟩ := exists_steps enough
      rw [List.map_nil, List.flatMap_nil, List.nil_append,
        readMembers_writtenMember colonBlank named back (fresh distinct) ends inside]
      simp only [afterMember, skipSpace_append last (show isSpace '\x7d' = false by decide)]
  | cons next others ih =>
      obtain ⟨named, back⟩ := each member List.mem_cons_self
      rw [List.map_cons, List.flatMap_cons, List.length_append] at enough
      obtain ⟨steps, rfl, inside⟩ := exists_steps
        (Nat.le_trans (Nat.mul_le_mul_left 2 (Nat.le_add_right _ _)) enough)
      have more := ih (fun entry listed => each entry (List.mem_cons_of_mem _ listed))
        (done ++ [member]) (by rwa [List.append_assoc]) steps
        (by simp only [List.length_append, List.length_cons] at enough ⊢; omega)
      have comma (follows : List Char) : skipSpace (',' :: follows) = ',' :: follows := rfl
      have resumes (follows : List Char) :
          skipSpace (separator ++ (writtenMember asciiOnly colonGap written next ++ follows)) =
            writtenMember asciiOnly colonGap written next ++ follows :=
        skipSpace_append between (show isSpace '"' = false by decide)
      rw [List.map_cons, List.flatMap_cons, List.append_assoc, List.append_assoc, List.cons_append,
        readMembers_writtenMember colonBlank named back (fresh distinct) (endsNumber_cons (by decide)) inside]
      simp only [afterMember, comma, resumes]
      rw [more, List.append_assoc, List.singleton_append]

end Groups

section Values

variable {layout : Layout} {depth level : Nat}

theorem writeItems_eq_map (layout : Layout) (level : Nat) (items : List Json) :
    writeItems layout level items = items.map (write layout level) := by
  induction items with
  | nil => rfl
  | cons item items ih => rw [writeItems, ih, List.map_cons]

theorem writeMembers_eq_map (layout : Layout) (level : Nat) (members : Members) :
    writeMembers layout level members =
      members.map (writtenMember layout.asciiOnly layout.colonGap (write layout level)) := by
  induction members with
  | nil => rfl
  | cons member members ih =>
      obtain ⟨name, value⟩ := member
      rw [writeMembers, ih, List.map_cons]
      rfl

/-- Parts between brackets: the first one after the opening bracket, and the others after commas. -/
theorem writeGroup_cons (layout : Layout) (level : Nat) (opening closing : Char) (first : List Char)
    (others : List (List Char)) :
    writeGroup layout level opening closing (first :: others) =
      opening :: (layout.lineBreak (level + 1) ++ (first ++
        (others.flatMap (',' :: (layout.gap ++ layout.lineBreak (level + 1)) ++ ·) ++
          (layout.lineBreak level ++ [closing])))) := by
  simp only [writeGroup, List.isEmpty_cons, if_neg Bool.false_ne_true, List.cons_append,
    intercalate_eq_flatMap, List.append_assoc]

/-- After an opening bracket, anything but a blank or a closing bracket starts the first item. -/
theorem readValue_arr {steps : Nat} {text tail : List Char} {c : Char}
    (first : skipSpace text = c :: tail) (other : c ≠ ']') :
    readValue [] (steps + 1) (depth + 1) ('[' :: text) = readItems [] steps depth [] (c :: tail) := by
  rw [readValue]
  simp only [first, Nat.add_sub_cancel, if_neg (Nat.succ_ne_zero depth)]
  split
  next same => exact (other (List.cons.inj same).1).elim
  next => rfl

/-- After an opening brace, a quotation mark starts the first member. -/
theorem readValue_obj {steps : Nat} {text tail : List Char} (first : skipSpace text = '"' :: tail) :
    readValue [] (steps + 1) (depth + 1) ('\x7b' :: text) = readMembers [] steps depth [] ('"' :: tail) := by
  rw [readValue]
  simp only [first, Nat.add_sub_cancel, if_neg (Nat.succ_ne_zero depth)]
  rfl

/-- An array is read back if its items are. -/
theorem readsBack_arr (blank : layout.IsBlank) {items : List Json}
    (each : ∀ item ∈ items, ReadsBack depth (write layout (level + 1) item) item) :
    ReadsBack (depth + 1) (write layout level (.arr items)) (.arr items) := by
  rw [write, writeItems_eq_map]
  cases items with
  | nil =>
      refine ⟨⟨'[', [']'], rfl, by decide, by decide⟩, ?_⟩
      intro steps rest _ enough
      obtain ⟨fewer, rfl⟩ : ∃ fewer, steps = fewer + 1 :=
        ⟨steps - 1, by simp [writeGroup] at enough; omega⟩
      rfl
  | cons item others =>
      rw [List.map_cons, writeGroup_cons]
      refine ⟨⟨'[', _, rfl, by decide, by decide⟩, ?_⟩
      intro steps rest _ enough
      simp only [List.length_cons, List.length_append] at enough
      obtain ⟨fewer, rfl⟩ : ∃ fewer, steps = fewer + 1 := ⟨steps - 1, by omega⟩
      have inside := readItems_written (blank.between (level + 1)) (layout.isSpace_lineBreak level)
        rest each [] fewer (by simp only [List.length_append]; omega)
      obtain ⟨c, tail, split, solid, notEnd⟩ := (each item List.mem_cons_self).starts
      have first (follows : List Char) :
          skipSpace (layout.lineBreak (level + 1) ++ (write layout (level + 1) item ++ follows)) =
            c :: (tail ++ follows) := by
        rw [split]
        exact skipSpace_append (layout.isSpace_lineBreak (level + 1)) solid
      rw [split] at inside
      simp only [List.cons_append, List.append_assoc, List.nil_append] at inside ⊢
      rw [readValue_arr (first _) notEnd]
      exact inside

/-- An object is read back if the values of its members are, and its names are text of which none is
repeated. -/
theorem readsBack_obj (blank : layout.IsBlank) {members : Members}
    (distinct : (members.map (·.1)).Nodup)
    (each : ∀ member ∈ members,
      member.1.isUnicode = true ∧ ReadsBack depth (write layout (level + 1) member.2) member.2) :
    ReadsBack (depth + 1) (write layout level (.obj members)) (.obj members) := by
  rw [write, writeMembers_eq_map]
  cases members with
  | nil =>
      refine ⟨⟨'\x7b', ['\x7d'], rfl, by decide, by decide⟩, ?_⟩
      intro steps rest _ enough
      obtain ⟨fewer, rfl⟩ : ∃ fewer, steps = fewer + 1 :=
        ⟨steps - 1, by simp [writeGroup] at enough; omega⟩
      rfl
  | cons member others =>
      rw [List.map_cons, writeGroup_cons]
      refine ⟨⟨'\x7b', _, rfl, by decide, by decide⟩, ?_⟩
      intro steps rest _ enough
      simp only [List.length_cons, List.length_append] at enough
      obtain ⟨fewer, rfl⟩ : ∃ fewer, steps = fewer + 1 := ⟨steps - 1, by omega⟩
      have inside := readMembers_written layout.asciiOnly blank.colonGap (blank.between (level + 1))
        (layout.isSpace_lineBreak level) rest each [] distinct fewer
        (by simp only [List.length_append]; omega)
      obtain ⟨tail, split⟩ : ∃ tail, writtenMember layout.asciiOnly layout.colonGap
          (write layout (level + 1)) member = '"' :: tail := ⟨_, rfl⟩
      have first (follows : List Char) :
          skipSpace (layout.lineBreak (level + 1) ++ '"' :: (tail ++ follows)) =
            '"' :: (tail ++ follows) :=
        skipSpace_append (layout.isSpace_lineBreak (level + 1)) (by decide)
      rw [split] at inside ⊢
      simp only [List.cons_append, List.append_assoc, List.nil_append] at inside ⊢
      rw [readValue_obj (first _)]
      exact inside

theorem readsBack_str {value : LooseText} (whole : value.isUnicode = true) :
    ReadsBack depth (write layout level (.str value)) (.str value) := by
  refine ⟨⟨'"', _, rfl, by decide, by decide⟩, ?_⟩
  intro steps rest _ enough
  obtain ⟨fewer, rfl⟩ : ∃ fewer, steps = fewer + 1 :=
    ⟨steps - 1, by simp [write, writeString, writePoints] at enough; omega⟩
  have opened : write layout level (.str value) ++ rest =
      '"' :: (value.points.flatMap (writePoint layout.asciiOnly) ++ '"' :: rest) := by
    simp [write, writeString, writePoints]
  rw [opened, readValue]
  simp only [readString_writePoints whole]

/-- What starts neither with a quotation mark nor with a bracket is a word or a number. -/
theorem readsBack_scalar {value : Json} {c : Char} {tail : List Char} (solid : isSpace c = false)
    (other : c ∉ ['"', '[', ']', '\x7b'])
    (reads : ∀ rest, EndsNumber rest → readScalar (c :: tail ++ rest) = .ok (value, rest)) :
    ReadsBack depth (c :: tail) value := by
  simp only [List.mem_cons, List.not_mem_nil, or_false, not_or] at other
  obtain ⟨noQuote, noArray, noEnd, noObject⟩ := other
  refine ⟨⟨c, tail, rfl, solid, noEnd⟩, ?_⟩
  intro steps rest ends enough
  obtain ⟨fewer, rfl⟩ : ∃ fewer, steps = fewer + 1 :=
    ⟨steps - 1, by rw [List.length_cons] at enough; omega⟩
  rw [List.cons_append, readValue]
  · exact reads rest ends
  · exact fun tail same => noQuote (List.cons.inj same).1
  · exact fun tail same => noArray (List.cons.inj same).1
  · exact fun tail same => noObject (List.cons.inj same).1

theorem readsBack_int {value : Int} (short : Decimal.isWritable value.natAbs = true) :
    ReadsBack depth (write layout level (.int value)) (.int value) := by
  have reads := fun rest (ends : EndsNumber rest) => readScalar_intText short ends
  obtain ⟨c, tail, split, first⟩ : ∃ c tail, (Decimal.intText value).toList = c :: tail ∧
      (c = '-' ∨ c.isDigit = true) := by
    cases value with
    | ofNat n =>
        obtain ⟨c, tail, split, digit⟩ := Decimal.exists_toDigits_cons n
        refine ⟨c, tail, ?_, .inr digit⟩
        rw [Decimal.intText, Decimal.natText, String.toList_ofList, split]
    | negSucc n =>
        refine ⟨'-', Nat.toDigits 10 (n + 1), ?_, .inl rfl⟩
        simp [Decimal.intText, Decimal.natText]
  rw [write, split]
  rw [split] at reads
  rcases first with rfl | digit
  · exact readsBack_scalar (by decide) (by decide) reads
  · have spaces : ∀ c ∈ [' ', '\t', '\n', '\r'], c.isDigit = false := by simp
    have brackets : ∀ c ∈ ['"', '[', ']', '\x7b'], c.isDigit = false := by simp
    refine readsBack_scalar ?_ (fun listed => ?_) reads
    · rw [← Bool.not_eq_true, isSpace_iff]
      intro listed
      rw [spaces c listed] at digit
      cases digit
    · rw [brackets c listed] at digit
      cases digit

/-- A plain value is read back. The induction is on the depth that the reader allows, since the parts
of an array or an object are read with one less. -/
theorem readsBack (blank : layout.IsBlank) (level : Nat) {value : Json}
    (plain : value.isPlain depth = true) : ReadsBack depth (write layout level value) value := by
  induction depth using Nat.strongRecOn generalizing level value with
  | ind depth ih =>
      cases value with
      | null => exact readsBack_scalar (by decide) (by decide) fun rest _ => rfl
      | bool value =>
          cases value with
          | false => exact readsBack_scalar (by decide) (by decide) fun rest _ => rfl
          | true => exact readsBack_scalar (by decide) (by decide) fun rest _ => rfl
      | int value => exact readsBack_int plain
      | float value => cases plain
      | str value => exact readsBack_str plain
      | arr items =>
          rw [isPlain, Bool.and_eq_true, decide_eq_true_eq] at plain
          obtain ⟨inner, rfl⟩ := Nat.exists_eq_succ_of_ne_zero (Nat.ne_of_gt plain.1)
          exact readsBack_arr blank fun item member =>
            ih inner (Nat.lt_succ_self inner) (level + 1) (arePlain_iff.mp plain.2 item member)
      | obj members =>
          rw [isPlain, Bool.and_eq_true, Bool.and_eq_true, decide_eq_true_eq, decide_eq_true_eq] at plain
          obtain ⟨⟨deep, distinct⟩, values⟩ := plain
          obtain ⟨inner, rfl⟩ := Nat.exists_eq_succ_of_ne_zero (Nat.ne_of_gt deep)
          refine readsBack_obj blank distinct fun member listed => ?_
          obtain ⟨named, held⟩ := membersArePlain_iff.mp values member listed
          exact ⟨named, ih inner (Nat.lt_succ_self inner) (level + 1) held⟩

/-- **A plain value is read as it is written.** -/
theorem readDocument_write (blank : layout.IsBlank) {value : Json}
    (plain : value.isPlain depth = true) :
    readDocument depth (write layout 0 value) = .ok value := by
  have back := readsBack blank 0 plain
  obtain ⟨c, tail, split, solid, -⟩ := back.starts
  have first : skipSpace (write layout 0 value) = write layout 0 value := by
    rw [split]
    exact skipSpace_solid solid
  have read := back.reads (stepsFor (write layout 0 value)) [] endsNumber_nil
    (by rw [stepsFor]; omega)
  rw [List.append_nil] at read
  rw [readDocument, first, read]
  rfl

theorem parse_write (blank : layout.IsBlank) {value : Json} (plain : value.isPlain depth = true) :
    parse depth (write layout 0 value) = .ok value := by
  rw [parse, readDocument_write blank plain]
  rfl

/-- A typed document that holds a plain object is read as it is written. -/
theorem parseTyped_write (blank : layout.IsBlank) {members : Members}
    (plain : (Json.obj members).isPlain depth = true) :
    parseTyped depth (write layout 0 (.obj members)) = .ok (.obj members) := by
  have opens : (write layout 0 (.obj members)).head? = some '\x7b' := by
    rw [write, writeGroup]
    split <;> rfl
  have unmarked : some '\x7b' ≠ some (Char.ofNat 0xfeff) := by decide
  rw [parseTyped, opens, if_neg unmarked, parse_write blank plain]

/-- A written object starts with a brace and another character of ASCII. -/
theorem exists_write_obj (layout : Layout) (level : Nat) (members : Members) :
    ∃ second rest, write layout level (.obj members) = '\x7b' :: second :: rest ∧
      0 < second.toNat ∧ second.toNat < 0x80 := by
  cases members with
  | nil => exact ⟨'\x7d', [], rfl, by decide⟩
  | cons member members =>
      obtain ⟨name, value⟩ := member
      rw [write, writeMembers, writeGroup_cons, Layout.lineBreak]
      cases layout.indent with
      | none => exact ⟨'"', _, rfl, by decide⟩
      | some width => exact ⟨'\n', _, rfl, by decide⟩

theorem Source.ofPoints_toNat (text : List Char) : Source.ofPoints (text.map Char.toNat) = text := by
  induction text with
  | nil => rfl
  | cons c rest ih =>
      rw [ofPoints, List.map_cons, List.foldr_cons, ← ofPoints, ih, addPoint,
        dif_neg (by simp [isSurrogate_toNat]), Char.ofNat_toNat]

/-- The bytes of a written object are read as its text. -/
theorem decodeDocument_write (layout : Layout) (level : Nat) (members : Members) :
    Text.Encoding.decodeDocument (Text.Utf8.encode (write layout level (.obj members))) =
      .ok ((write layout level (.obj members)).map Char.toNat) := by
  obtain ⟨second, rest, written, ascii⟩ := exists_write_obj layout level members
  rw [written]
  exact Text.Encoding.decodeDocument_encode ascii rest

end Values

end SourceAudit.Json
