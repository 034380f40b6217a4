import CaseRouting.Files.Basic

/-!
# Bytes that encode a text

Which sequences of bytes are texts in UTF-8, as a grammar that speaks of bytes alone. The first byte
of a character says how many follow it. No character is written with more bytes than it needs, and
neither surrogates nor numbers above `10FFFF` are written at all. Reading bytes as a text succeeds
on the sequences that the grammar derives and on no others, and gives the text whose bytes they are.
-/

namespace CaseRouting.Utf8

/-- A byte behind the first one of a character, of which there are up to three. -/
def IsTail (byte : UInt8) : Prop := 0x80 ≤ byte ∧ byte ≤ 0xBF

/-- The bytes of one character, by how many there are. The conditions on the second byte keep out
longer writings than are needed, surrogates, and numbers beyond the last. -/
inductive IsCharacter : List UInt8 → Prop where
  | one {b₁ : UInt8} (first : b₁ ≤ 0x7F) : IsCharacter [b₁]
  | two {b₁ b₂ : UInt8} (first : 0xC2 ≤ b₁ ∧ b₁ ≤ 0xDF) (second : IsTail b₂) : IsCharacter [b₁, b₂]
  | three {b₁ b₂ b₃ : UInt8} (first : 0xE0 ≤ b₁ ∧ b₁ ≤ 0xEF) (second : IsTail b₂)
      (shortest : b₁ = 0xE0 → 0xA0 ≤ b₂) (no_surrogate : b₁ = 0xED → b₂ ≤ 0x9F)
      (third : IsTail b₃) : IsCharacter [b₁, b₂, b₃]
  | four {b₁ b₂ b₃ b₄ : UInt8} (first : 0xF0 ≤ b₁ ∧ b₁ ≤ 0xF4) (second : IsTail b₂)
      (shortest : b₁ = 0xF0 → 0x90 ≤ b₂) (in_range : b₁ = 0xF4 → b₂ ≤ 0x8F)
      (third : IsTail b₃) (fourth : IsTail b₄) : IsCharacter [b₁, b₂, b₃, b₄]

/-- The bytes of a text: one character after the other, with nothing between them and nothing left
over. -/
inductive IsText : List UInt8 → Prop where
  | nil : IsText []
  | cons {character rest : List UInt8} : IsCharacter character → IsText rest →
      IsText (character ++ rest)

section Characters

/-- A character is written as the grammar has it. Each of the four widths writes the digits of its
number in base 64 behind a byte for the width. -/
theorem isCharacter_utf8EncodeChar (c : Char) : IsCharacter (String.utf8EncodeChar c) := by
  have hvalid : c.val.toNat < 0xD800 ∨ 0xDFFF < c.val.toNat ∧ c.val.toNat < 0x110000 := c.valid
  unfold String.utf8EncodeChar
  dsimp only
  generalize c.val.toNat = v at hvalid
  split
  · constructor
    simp only [UInt8.le_iff_toNat_le, UInt8.toNat_ofNat', UInt8.reduceToNat]
    omega
  split
  · constructor <;>
      simp only [IsTail, UInt8.le_iff_toNat_le, UInt8.toNat_ofNat', UInt8.reduceToNat] <;> omega
  split
  · constructor <;>
      simp only [IsTail, UInt8.le_iff_toNat_le, ← UInt8.toNat_inj, UInt8.toNat_ofNat',
        UInt8.reduceToNat] <;> omega
  · constructor <;>
      simp only [IsTail, UInt8.le_iff_toNat_le, ← UInt8.toNat_inj, UInt8.toNat_ofNat',
        UInt8.reduceToNat] <;> omega

/-- Every number but those of surrogates is the number of a character, which is written in base 64
behind a byte for the width. -/
theorem exists_utf8EncodeChar_eq {v : Nat} (hvalid : v.isValidChar) :
    ∃ c, String.utf8EncodeChar c =
      if v ≤ 0x7F then [.ofNat v]
      else if v ≤ 0x7FF then [.ofNat (v / 64 % 32 + 0xC0), .ofNat (v % 64 + 0x80)]
      else if v ≤ 0xFFFF then
        [.ofNat (v / 4096 % 16 + 0xE0), .ofNat (v / 64 % 64 + 0x80), .ofNat (v % 64 + 0x80)]
      else
        [.ofNat (v / 262144 % 8 + 0xF0), .ofNat (v / 4096 % 64 + 0x80),
          .ofNat (v / 64 % 64 + 0x80), .ofNat (v % 64 + 0x80)] :=
  ⟨Char.ofNatAux v hvalid, rfl⟩

/-- What the grammar has as a character is the writing of one, whose number is put together from the
bytes. -/
theorem IsCharacter.exists_utf8EncodeChar {bytes : List UInt8} (h : IsCharacter bytes) :
    ∃ c, String.utf8EncodeChar c = bytes := by
  cases h with
  | @one b₁ first =>
    simp only [UInt8.le_iff_toNat_le, UInt8.reduceToNat] at first
    have hvalid : b₁.toNat.isValidChar := .inl (by omega)
    obtain ⟨c, hc⟩ := exists_utf8EncodeChar_eq hvalid
    refine ⟨c, hc.trans ?_⟩
    rw [if_pos first, UInt8.ofNat_toNat]
  | @two b₁ b₂ first second =>
    simp only [IsTail, UInt8.le_iff_toNat_le, UInt8.reduceToNat] at first second
    have hvalid : ((b₁.toNat - 0xC0) * 64 + (b₂.toNat - 0x80)).isValidChar := .inl (by omega)
    obtain ⟨c, hc⟩ := exists_utf8EncodeChar_eq hvalid
    refine ⟨c, hc.trans ?_⟩
    rw [if_neg (by omega), if_pos (by omega)]
    simp only [List.cons.injEq, ← UInt8.toNat_inj, UInt8.toNat_ofNat', and_true]
    omega
  | @three b₁ b₂ b₃ first second shortest no_surrogate third =>
    simp only [IsTail, UInt8.le_iff_toNat_le, ← UInt8.toNat_inj, UInt8.reduceToNat]
      at first second shortest no_surrogate third
    have hvalid : ((b₁.toNat - 0xE0) * 4096 + (b₂.toNat - 0x80) * 64 +
        (b₃.toNat - 0x80)).isValidChar := by
      unfold Nat.isValidChar
      omega
    obtain ⟨c, hc⟩ := exists_utf8EncodeChar_eq hvalid
    refine ⟨c, hc.trans ?_⟩
    rw [if_neg (by omega), if_neg (by omega), if_pos (by omega)]
    simp only [List.cons.injEq, ← UInt8.toNat_inj, UInt8.toNat_ofNat', and_true]
    omega
  | @four b₁ b₂ b₃ b₄ first second shortest in_range third fourth =>
    simp only [IsTail, UInt8.le_iff_toNat_le, ← UInt8.toNat_inj, UInt8.reduceToNat]
      at first second shortest in_range third fourth
    have hvalid : ((b₁.toNat - 0xF0) * 262144 + (b₂.toNat - 0x80) * 4096 +
        (b₃.toNat - 0x80) * 64 + (b₄.toNat - 0x80)).isValidChar := by
      unfold Nat.isValidChar
      omega
    obtain ⟨c, hc⟩ := exists_utf8EncodeChar_eq hvalid
    refine ⟨c, hc.trans ?_⟩
    rw [if_neg (by omega), if_neg (by omega), if_neg (by omega)]
    simp only [List.cons.injEq, ← UInt8.toNat_inj, UInt8.toNat_ofNat', and_true]
    omega

end Characters

section Texts

/-- The grammar derives the writings of characters in a row, and nothing else. -/
theorem isText_iff_exists_flatMap {bytes : List UInt8} :
    IsText bytes ↔ ∃ cs, List.flatMap String.utf8EncodeChar cs = bytes := by
  constructor
  · intro h
    induction h with
    | nil => exact ⟨[], rfl⟩
    | cons hcharacter _ ih =>
      obtain ⟨c, rfl⟩ := hcharacter.exists_utf8EncodeChar
      obtain ⟨cs, rfl⟩ := ih
      exact ⟨c :: cs, rfl⟩
  · rintro ⟨cs, rfl⟩
    induction cs with
    | nil => exact .nil
    | cons c cs ih => exact .cons (isCharacter_utf8EncodeChar c) ih

/-- The grammar derives the bytes that are valid by the definition of the library. A character cut
short, one written too long and a surrogate are not. -/
theorem isText_iff_isValidUTF8 {bytes : ByteArray} :
    IsText bytes.data.toList ↔ bytes.IsValidUTF8 := by
  rw [isText_iff_exists_flatMap]
  constructor
  · rintro ⟨cs, hcs⟩
    refine ⟨cs, ByteArray.ext (Array.toList_inj.mp ?_)⟩
    rw [List.utf8Encode, hcs, List.toList_data_toByteArray]
  · rintro ⟨cs, rfl⟩
    exact ⟨cs, List.toList_data_toByteArray.symm⟩

instance (bytes : List UInt8) : Decidable (IsText bytes) :=
  decidable_of_iff bytes.toByteArray.IsValidUTF8 <| by
    rw [← isText_iff_isValidUTF8, List.toList_data_toByteArray]

example : ¬ IsText [0xE2, 0x82] ∧ ¬ IsText [0xC0, 0x80] ∧ ¬ IsText [0xED, 0xA0, 0x80] ∧
    IsText [0xE2, 0x82, 0xAC] := by decide

/-- The bytes that are a text are those that encode one, so that being a text can be said without a
grammar. -/
theorem isText_iff_exists_toUTF8 {bytes : ByteArray} :
    IsText bytes.data.toList ↔ ∃ text : String, text.toUTF8 = bytes := by
  rw [isText_iff_isValidUTF8]
  constructor
  · exact fun hvalid => ⟨String.ofByteArray bytes hvalid, rfl⟩
  · rintro ⟨text, rfl⟩
    exact text.isValidUTF8

end Texts

end CaseRouting.Utf8

namespace CaseRouting

open Utf8 (IsText isText_iff_isValidUTF8)

variable {bytes : ByteArray}

/-- Bytes are read as the text that they encode, and as no other. -/
theorem textOfBytes_eq_ok_iff {text : String} :
    textOfBytes bytes = .ok text ↔ text.toUTF8 = bytes := by
  unfold textOfBytes String.fromUTF8?
  by_cases hvalid : bytes.IsValidUTF8
  · rw [dif_pos hvalid, String.toUTF8_eq_toByteArray, Except.ok.injEq, ← String.toByteArray_inj]
    exact eq_comm
  · rw [dif_neg hvalid]
    refine iff_of_false nofun ?_
    rintro rfl
    exact hvalid text.isValidUTF8

/-- A text is read from the bytes that encode it, whatever its characters are. -/
theorem textOfBytes_toUTF8 (text : String) : textOfBytes text.toUTF8 = .ok text :=
  textOfBytes_eq_ok_iff.mpr rfl

/-- Bytes that are no text are refused, always for the same reason, and no others are. -/
theorem textOfBytes_eq_error_iff {reason : ReadError} :
    textOfBytes bytes = .error reason ↔ ¬ IsText bytes.data.toList ∧ reason = .notText := by
  rw [isText_iff_isValidUTF8]
  unfold textOfBytes String.fromUTF8?
  by_cases hvalid : bytes.IsValidUTF8
  · rw [dif_pos hvalid]
    exact iff_of_false nofun fun h => h.1 hvalid
  · rw [dif_neg hvalid]
    simp [hvalid, eq_comm]

end CaseRouting
