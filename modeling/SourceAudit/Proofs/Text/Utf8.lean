import SourceAudit.Text.Encoding

/-!
# UTF-8 read back

The bytes of a text are read as its characters (`Utf8.scan_encode`): each character starts from
between two characters and ends there (`Utf8.read_encodeChar`), whatever has been found before. So
both decoders give the text back, and so does the one for documents, if they are objects
(`Encoding.decodeDocument_encode`).
-/

namespace SourceAudit.Text.Utf8

theorem toNat_toUInt8 {byte : Nat} (small : byte < 0x100) : byte.toUInt8.toNat = byte := by
  rw [Nat.toUInt8, UInt8.toNat_ofNat']
  exact Nat.mod_eq_of_lt small

/-- Between two characters a byte begins the next one. -/
theorem read_first {found : List Piece} {byte : Nat} (small : byte < 0x100) :
    Progress.read ⟨found, none⟩ byte.toUInt8 = .begin found byte := by
  simp only [Progress.read, toNat_toUInt8 small]

section Continuation

variable {found : List Piece} {taken missing low high bits tail : Nat}

/-- The six bits of the last byte that a character waits for end it. -/
theorem read_last (small : tail < 0x40) (least : low ≤ 0x80 + tail) (greatest : 0x80 + tail ≤ high) :
    Progress.read ⟨found, some ⟨taken, 1, low, high, bits⟩⟩ (0x80 + tail).toUInt8 =
      ⟨.char (Char.ofNat (bits * 0x40 + tail)) :: found, none⟩ := by
  have value := toNat_toUInt8 (show 0x80 + tail < 0x100 by omega)
  have inRange : low ≤ 0x80 + tail ∧ 0x80 + tail ≤ high := ⟨least, greatest⟩
  simp only [Progress.read, value, if_pos inRange, if_true, Nat.add_sub_cancel_left]

/-- The six bits of an earlier byte are taken into the character, which waits for any byte of its
kind next. -/
theorem read_more (small : tail < 0x40) (least : low ≤ 0x80 + tail) (greatest : 0x80 + tail ≤ high) :
    Progress.read ⟨found, some ⟨taken, missing + 2, low, high, bits⟩⟩ (0x80 + tail).toUInt8 =
      ⟨found, some ⟨taken + 1, missing + 1, 0x80, 0xbf, bits * 0x40 + tail⟩⟩ := by
  have value := toNat_toUInt8 (show 0x80 + tail < 0x100 by omega)
  have inRange : low ≤ 0x80 + tail ∧ 0x80 + tail ≤ high := ⟨least, greatest⟩
  have more : ¬ missing + 2 = 1 := by omega
  simp only [Progress.read, value, if_pos inRange, if_neg more, Nat.add_sub_cancel_left]
  rfl

end Continuation

variable {point : Nat}

/-- The first of two bytes waits for one more. -/
theorem start_two (large : 0x80 ≤ point) (small : point < 0x800) :
    start (0xc0 + point / 0x40) = .inr ⟨1, 1, 0x80, 0xbf, point / 0x40⟩ := by
  have low : ¬ 0xc0 + point / 0x40 < 0xc2 := by omega
  have high : 0xc0 + point / 0x40 < 0xe0 := by omega
  rw [start, if_neg (by omega), if_neg low, if_pos high, Nat.add_sub_cancel_left]

/-- The first of three bytes waits for the second one in a range that holds it: a surrogate is left
out, and so is what fits into two bytes. -/
theorem start_three (large : 0x800 ≤ point) (small : point < 0x10000)
    (scalar : point < 0xd800 ∨ 0xdfff < point) :
    ∃ low high, start (0xe0 + point / 0x1000) = .inr ⟨1, 2, low, high, point / 0x1000⟩ ∧
      low ≤ 0x80 + point / 0x40 % 0x40 ∧ 0x80 + point / 0x40 % 0x40 ≤ high := by
  have first : ¬ 0xe0 + point / 0x1000 < 0x80 := by omega
  have second : ¬ 0xe0 + point / 0x1000 < 0xc2 := by omega
  have third : ¬ 0xe0 + point / 0x1000 < 0xe0 := by omega
  have last : 0xe0 + point / 0x1000 < 0xf0 := by omega
  rw [start, if_neg first, if_neg second, if_neg third]
  by_cases lowest : 0xe0 + point / 0x1000 = 0xe0
  · have bits : point / 0x1000 = 0 := by omega
    rw [if_pos lowest, bits]
    exact ⟨0xa0, 0xbf, rfl, by omega, by omega⟩
  · rw [if_neg lowest]
    by_cases beforeSurrogates : 0xe0 + point / 0x1000 = 0xed
    · have bits : point / 0x1000 = 0xd := by omega
      rw [if_pos beforeSurrogates, bits]
      exact ⟨0x80, 0x9f, rfl, by omega, by omega⟩
    · rw [if_neg beforeSurrogates, if_pos last, Nat.add_sub_cancel_left]
      exact ⟨0x80, 0xbf, rfl, by omega, by omega⟩

/-- The first of four bytes waits for the second one in a range that holds it. -/
theorem start_four (large : 0x10000 ≤ point) (small : point < 0x110000) :
    ∃ low high, start (0xf0 + point / 0x40000) = .inr ⟨1, 3, low, high, point / 0x40000⟩ ∧
      low ≤ 0x80 + point / 0x1000 % 0x40 ∧ 0x80 + point / 0x1000 % 0x40 ≤ high := by
  have first : ¬ 0xf0 + point / 0x40000 < 0x80 := by omega
  have second : ¬ 0xf0 + point / 0x40000 < 0xc2 := by omega
  have third : ¬ 0xf0 + point / 0x40000 < 0xe0 := by omega
  have fourth : ¬ 0xf0 + point / 0x40000 = 0xe0 := by omega
  have fifth : ¬ 0xf0 + point / 0x40000 = 0xed := by omega
  have sixth : ¬ 0xf0 + point / 0x40000 < 0xf0 := by omega
  rw [start, if_neg first, if_neg second, if_neg third, if_neg fourth, if_neg fifth, if_neg sixth]
  by_cases lowest : 0xf0 + point / 0x40000 = 0xf0
  · have bits : point / 0x40000 = 0 := by omega
    rw [if_pos lowest, bits]
    exact ⟨0x90, 0xbf, rfl, by omega, by omega⟩
  · rw [if_neg lowest]
    by_cases inner : 0xf0 + point / 0x40000 < 0xf4
    · rw [if_pos inner, Nat.add_sub_cancel_left]
      exact ⟨0x80, 0xbf, rfl, by omega, by omega⟩
    · have bits : point / 0x40000 = 4 := by omega
      have highest : 0xf0 + point / 0x40000 = 0xf4 := by omega
      rw [if_neg inner, if_pos highest, bits]
      exact ⟨0x80, 0x8f, rfl, by omega, by omega⟩

/-- The bytes of a character are read as the character. -/
theorem read_encodeChar (found : List Piece) (c : Char) :
    (encodeChar c).foldl Progress.read ⟨found, none⟩ = ⟨.char c :: found, none⟩ := by
  have valid : c.toNat < 0xd800 ∨ 0xdfff < c.toNat ∧ c.toNat < 0x110000 := c.valid
  have same : Char.ofNat c.toNat = c := Char.ofNat_toNat c
  unfold encodeChar
  generalize c.toNat = point at valid same
  by_cases one : point < 0x80
  · simp only [if_pos one, List.foldl_cons, List.foldl_nil]
    rw [read_first (by omega), Progress.begin, start, if_pos one, same]
  · rw [if_neg one]
    by_cases two : point < 0x800
    · have bits : point / 0x40 * 0x40 + point % 0x40 = point := by omega
      simp only [if_pos two, List.foldl_cons, List.foldl_nil]
      rw [read_first (by omega), Progress.begin, start_two (by omega) two]
      simp only
      rw [read_last (by omega) (by omega) (by omega), bits, same]
    · rw [if_neg two]
      by_cases three : point < 0x10000
      · obtain ⟨low, high, begins, least, greatest⟩ :=
          start_three (by omega) three (valid.imp_right And.left)
        have bits : (point / 0x1000 * 0x40 + point / 0x40 % 0x40) * 0x40 + point % 0x40 = point := by
          omega
        simp only [if_pos three, List.foldl_cons, List.foldl_nil]
        rw [read_first (by omega), Progress.begin, begins]
        simp only
        rw [read_more (by omega) least greatest, read_last (by omega) (by omega) (by omega), bits,
          same]
      · obtain ⟨low, high, begins, least, greatest⟩ :=
          start_four (show 0x10000 ≤ point by omega) (by omega)
        have bits : ((point / 0x40000 * 0x40 + point / 0x1000 % 0x40) * 0x40 +
            point / 0x40 % 0x40) * 0x40 + point % 0x40 = point := by omega
        simp only [if_neg three, List.foldl_cons, List.foldl_nil]
        rw [read_first (by omega), Progress.begin, begins]
        simp only
        rw [read_more (by omega) least greatest, read_more (by omega) (by omega) (by omega),
          read_last (by omega) (by omega) (by omega), bits, same]

theorem read_encode (found : List Piece) (text : List Char) :
    (encode text).foldl Progress.read ⟨found, none⟩ =
      ⟨(text.map Piece.char).reverse ++ found, none⟩ := by
  induction text generalizing found with
  | nil => rfl
  | cons c rest ih =>
      rw [encode, List.flatMap_cons, List.foldl_append, read_encodeChar]
      rw [encode] at ih
      rw [ih, List.map_cons, List.reverse_cons, List.append_assoc, List.singleton_append]

/-- **The bytes of a text are read as its characters.** -/
theorem scan_encode (text : List Char) : scan (encode text) = text.map Piece.char := by
  rw [scan, read_encode, Progress.finish, List.append_nil, List.reverse_reverse]

theorem decodeLossy_encode (text : List Char) : decodeLossy (encode text) = text := by
  rw [decodeLossy, scan_encode, List.map_map]
  exact List.map_id text

theorem decode?_encode (text : List Char) : decode? (encode text) = some text := by
  rw [decode?, scan_encode]
  induction text with
  | nil => rfl
  | cons c rest ih =>
      rw [List.map_cons, List.mapM_cons, ih]
      rfl

end SourceAudit.Text.Utf8

namespace SourceAudit.Text.Encoding

theorem collect_chars (encoding : Encoding) (bytes : List UInt8) (offset : Nat)
    (found : List Nat) (text : List Char) :
    encoding.collect bytes offset found (text.map Piece.char) =
      .ok (found.reverse ++ text.map Char.toNat) := by
  induction text generalizing offset found with
  | nil => simp [collect]
  | cons c rest ih =>
      rw [List.map_cons, collect, ih, List.reverse_cons, List.append_assoc, List.singleton_append,
        List.map_cons]

/-- A document that starts with a brace and a byte that is not zero is in UTF-8. -/
theorem ofDocument_brace {second : UInt8} (solid : second ≠ 0) (rest : List UInt8) :
    ofDocument (0x7b :: second :: rest) = .utf8 := by
  match rest with
  | [] => exact if_neg solid
  | [_] => rfl
  | _ :: _ :: _ => exact if_neg solid

/-- The bytes of a document are read as its characters, if it starts with a brace and a character of
ASCII. -/
theorem decodeDocument_encode {second : Char} (ascii : 0 < second.toNat ∧ second.toNat < 0x80)
    (rest : List Char) :
    decodeDocument (Utf8.encode ('\x7b' :: second :: rest)) =
      .ok (('\x7b' :: second :: rest).map Char.toNat) := by
  have bytes : Utf8.encode ('\x7b' :: second :: rest) =
      0x7b :: second.toNat.toUInt8 :: Utf8.encode rest := by
    simp [Utf8.encode, Utf8.encodeChar, ascii]
  have solid : second.toNat.toUInt8 ≠ 0 := by
    have value := Utf8.toNat_toUInt8 (Nat.lt_trans ascii.2 (by decide : 0x80 < 0x100))
    rw [Ne, ← UInt8.toNat_inj, value]
    exact Nat.ne_of_gt ascii.1
  have plain : ofDocument (Utf8.encode ('\x7b' :: second :: rest)) = .utf8 := by
    rw [bytes]
    exact ofDocument_brace solid _
  rw [decodeDocument, plain]
  simp only [resolve, pieces, Utf8.scan_encode, ↓reduceIte, Nat.sub_self]
  exact collect_chars _ _ _ _ _

end SourceAudit.Text.Encoding
