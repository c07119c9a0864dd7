import SourceAudit.Proofs.Text.Loose
import SourceAudit.Proofs.Text.Utf8
import SourceAudit.Text.Encode

/-!
# Paths as bytes

A path can be handed to the system when each of its code points has a place there: any character but the
null character, and a surrogate that stands for a byte (`IsPathPoint`). No other code point gives a null
byte, or keeps the path from being encoded (`exists_pathBytes_iff`).
-/

namespace SourceAudit.Text

/-- A code point that can stand in a path. -/
structure IsPathPoint (point : Nat) : Prop where
  notNull : point ≠ 0
  encodable : isUnencodable point = false

instance (point : Nat) : Decidable (IsPathPoint point) :=
  decidable_of_iff (point ≠ 0 ∧ isUnencodable point = false)
    ⟨fun both => ⟨both.1, both.2⟩, fun stands => ⟨stands.notNull, stands.encodable⟩⟩

theorem zero_eq_toUInt8_iff {byte : Nat} (small : byte < 0x100) : 0 = byte.toUInt8 ↔ byte = 0 := by
  rw [← UInt8.toNat_inj, Utf8.toNat_toUInt8 small]
  exact eq_comm

/-- Only the null character has a null byte. -/
theorem Utf8.zero_mem_encodeChar_iff {c : Char} : 0 ∈ Utf8.encodeChar c ↔ c.toNat = 0 := by
  have limit : c.toNat < 0xd800 ∨ 0xdfff < c.toNat ∧ c.toNat < 0x110000 := c.valid
  unfold Utf8.encodeChar
  dsimp only
  split
  next => rw [List.mem_singleton, zero_eq_toUInt8_iff (by omega)]
  next =>
    split
    next =>
      simp (disch := omega) only [List.mem_cons, List.not_mem_nil, or_false, zero_eq_toUInt8_iff]
      omega
    next =>
      split <;> simp (disch := omega) only [List.mem_cons, List.not_mem_nil, or_false,
        zero_eq_toUInt8_iff] <;> omega

/-- A code point of a text that can be encoded gives a null byte only if it is null. -/
theorem zero_mem_pointBytes_iff {text : LooseText} {point : Nat} (member : point ∈ text.points)
    (encodable : isUnencodable point = false) : 0 ∈ pointBytes point ↔ point = 0 := by
  rw [pointBytes]
  split
  next escaped =>
    rw [isEscapedByte, Bool.and_eq_true, decide_eq_true_eq, decide_eq_true_eq] at escaped
    rw [List.mem_singleton, zero_eq_toUInt8_iff (by omega)]
    omega
  next unescaped =>
    rcases LooseText.point_cases member with lone | ⟨c, rfl⟩
    · rw [isUnencodable, lone, Bool.true_and, Bool.not_eq_false'] at encodable
      exact (unescaped encodable).elim
    · rw [Char.ofNat_toNat, Utf8.zero_mem_encodeChar_iff]

/-- **Which texts are paths.** A text is encoded without a null byte exactly when each of its code points
can stand in a path. -/
theorem exists_pathBytes_iff {text : LooseText} :
    (∃ place, pathBytes text = .ok place ∧ 0 ∉ place) ↔ ∀ point ∈ text.points, IsPathPoint point := by
  unfold pathBytes
  split
  next position found =>
    obtain ⟨inside, fault, -⟩ := List.findIdx?_eq_some_iff_getElem.mp found
    refine iff_of_false (fun ⟨place, same, _⟩ => nomatch same) fun each => ?_
    have stands := each _ (List.getElem_mem inside)
    rw [stands.encodable] at fault
    cases fault
  next none =>
    have encodable := List.findIdx?_eq_none_iff.mp none
    constructor
    · rintro ⟨place, same, noNull⟩ point member
      cases same
      refine ⟨?_, encodable point member⟩
      rintro rfl
      exact noNull (List.mem_flatMap.mpr
        ⟨0, member, (zero_mem_pointBytes_iff member (encodable 0 member)).mpr rfl⟩)
    · refine fun each => ⟨_, rfl, fun null => ?_⟩
      obtain ⟨point, member, within⟩ := List.mem_flatMap.mp null
      exact (each point member).notNull ((zero_mem_pointBytes_iff member (encodable point member)).mp within)

end SourceAudit.Text
