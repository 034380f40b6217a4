import CaseRouting.Proofs.JsonGrammar

/-!
# Reading a spelled text

Whatever escapes a text is written with, reading it gives its characters and takes it up to the
closing quotation mark; skipping it takes as much. Every step takes at least one character, so that
the length of what is left bounds the number of steps.
-/

namespace CaseRouting.Json

/-- Reading a code unit takes its four digits and gives the number that they spell. -/
theorem codeUnit_of_spells {n : Nat} {us : List Char} (h : SpellsUnit n us) (rest : List Char) :
    codeUnit (us ++ rest) = .ok (n, rest) := by
  cases h with
  | digits ha hb hc hd => simp [codeUnit, endsWithinUnit, ha, hb, hc, hd]

/-- The code point of a character is no surrogate, so that a single code unit that spells it is not
the first half of a pair. -/
theorem toNat_not_surrogate (c : Char) : c.toNat < 0xD800 ∨ 0xDFFF < c.toNat :=
  c.valid.imp_right And.left

/-- An escape of two characters stands for its character and is not that of a code unit. -/
theorem shortEscape?_of_mem {e c : Char} (h : (e, c) ∈ shortEscapes) :
    e ≠ 'u' ∧ shortEscape? e = some c := by
  simp only [shortEscapes, List.mem_cons, Prod.mk.injEq, List.not_mem_nil, or_false] at h
  rcases h with ⟨rfl, rfl⟩ | ⟨rfl, rfl⟩ | ⟨rfl, rfl⟩ | ⟨rfl, rfl⟩ | ⟨rfl, rfl⟩ | ⟨rfl, rfl⟩ |
    ⟨rfl, rfl⟩ | ⟨rfl, rfl⟩ <;> exact ⟨by decide, rfl⟩

/-- The escape of a character up to U+FFFF is read as the character, without a second escape. -/
theorem unicodeEscape_unit {c : Char} {us : List Char} (h : SpellsUnit c.toNat us)
    (rest : List Char) : unicodeEscape (us ++ rest) = .ok (c, rest) := by
  have hlower : ¬ (0xDC00 ≤ c.toNat ∧ c.toNat ≤ 0xDFFF) := by
    have := toNat_not_surrogate c
    omega
  have hupper : ¬ (0xD800 ≤ c.toNat ∧ c.toNat ≤ 0xDBFF) := by
    have := toNat_not_surrogate c
    omega
  simp only [unicodeEscape, codeUnit_of_spells h rest, bind, Except.bind, hlower, hupper, if_false,
    Char.ofNat_toNat]

/-- The pair of escapes of a character beyond U+FFFF is read as the character, both escapes
together. -/
theorem unicodeEscape_pair {c : Char} {upper lower : Nat} {us ls : List Char}
    (hupper : 0xD800 ≤ upper ∧ upper ≤ 0xDBFF) (hlower : 0xDC00 ≤ lower ∧ lower ≤ 0xDFFF)
    (hc : c.toNat = 0x10000 + (upper - 0xD800) * 0x400 + (lower - 0xDC00))
    (hus : SpellsUnit upper us) (hls : SpellsUnit lower ls) (rest : List Char) :
    unicodeEscape (us ++ ('\\' :: 'u' :: (ls ++ rest))) = .ok (c, rest) := by
  have hnotLower : ¬ (0xDC00 ≤ upper ∧ upper ≤ 0xDFFF) := by omega
  simp only [unicodeEscape, codeUnit_of_spells hus, bind, Except.bind, hnotLower, if_false, hupper,
    and_self, if_true, expectChars, codeUnit_of_spells hls, hlower, ← hc, Char.ofNat_toNat]

/-- Reading one spelled character takes one step, whichever way it is written, and puts it in front
of the others. -/
theorem stringChars_char {c : Char} {us : List Char} (h : SpellsChar c us) (fuel : Nat)
    (rest : List Char) :
    stringChars (fuel + 1) (us ++ rest) = (do
      let (ds, rest) ← stringChars fuel rest
      .ok (c :: ds, rest)) := by
  cases h with
  | plain hquote hslash hcontrol =>
    simp [stringChars, hquote, hslash, Nat.not_lt.mpr hcontrol]
  | short h =>
    obtain ⟨hu, hshort⟩ := shortEscape?_of_mem h
    simp [stringChars, escape, hshort, bind, Except.bind]
  | unit h => simp [stringChars, escape, unicodeEscape_unit h, bind, Except.bind]
  | pair hupper hlower hc hus hls =>
    simp [stringChars, escape, unicodeEscape_pair hupper hlower hc hus hls, bind, Except.bind]

/-- Every spelling of a character has a character, so that reading it takes something off the
text. -/
theorem SpellsChar.length_pos {c : Char} {us : List Char} (h : SpellsChar c us) :
    0 < us.length := by
  cases h <;> simp

/-- Reading the characters of a spelled text gives them in turn, up to the closing mark. -/
theorem stringChars_of_spells {cs body : List Char} (h : SpellsBody cs body) {fuel : Nat}
    (hfuel : body.length ≤ fuel) (rest : List Char) :
    stringChars fuel (body ++ rest) = .ok (cs, rest) := by
  induction h generalizing fuel with
  | close =>
    obtain ⟨fuel, rfl⟩ := Nat.exists_eq_add_of_le' hfuel
    rfl
  | @char c cs us body hc hbody ih =>
    have hpos := hc.length_pos
    rw [List.length_append] at hfuel
    obtain ⟨fuel, rfl⟩ := Nat.exists_eq_add_of_le' (show 1 ≤ fuel by omega)
    rw [List.append_assoc, stringChars_char hc, ih (show body.length ≤ fuel by omega)]
    rfl

/-- Reading a spelled text behind its opening quotation mark gives the text and takes the closing
mark. -/
theorem stringBody_of_spells {s : String} {body : List Char} (h : SpellsBody s.toList body)
    (rest : List Char) : stringBody (body ++ rest) = .ok (s, rest) := by
  have hread : stringChars ((body ++ rest).length + 1) (body ++ rest) = .ok (s.toList, rest) :=
    stringChars_of_spells h (by rw [List.length_append]; omega) rest
  simp only [stringBody, hread, bind, Except.bind, String.ofList_toList]

/-- Skipping one spelled character takes no more steps than it has characters, whichever way it is
written. -/
theorem skipStringChars_char {c : Char} {us : List Char} (h : SpellsChar c us) :
    ∃ steps ≤ us.length, ∀ fuel rest,
      skipStringChars (fuel + steps) (us ++ rest) = skipStringChars fuel rest := by
  cases h with
  | plain hquote hslash hcontrol =>
    refine ⟨1, by simp, fun fuel rest => ?_⟩
    simp [skipStringChars, hquote, hslash, Nat.not_lt.mpr hcontrol]
  | short h =>
    obtain ⟨hu, hshort⟩ := shortEscape?_of_mem h
    refine ⟨1, by simp, fun fuel rest => ?_⟩
    simp [skipStringChars, skipEscape, hshort]
  | unit h =>
    refine ⟨1, by simp, fun fuel rest => ?_⟩
    simp [skipStringChars, skipEscape, codeUnit_of_spells h, bind, Except.bind]
  | pair hupper hlower hc hus hls =>
    refine ⟨2, by simp, fun fuel rest => ?_⟩
    simp [skipStringChars, skipEscape, codeUnit_of_spells hus, codeUnit_of_spells hls, bind,
      Except.bind]

/-- Skipping the characters of a spelled text takes as much as reading them does. -/
theorem skipStringChars_of_spells {cs body : List Char} (h : SpellsBody cs body) {fuel : Nat}
    (hfuel : body.length ≤ fuel) (rest : List Char) :
    skipStringChars fuel (body ++ rest) = .ok rest := by
  induction h generalizing fuel with
  | close =>
    obtain ⟨fuel, rfl⟩ := Nat.exists_eq_add_of_le' hfuel
    rfl
  | @char c cs us body hc hbody ih =>
    obtain ⟨steps, hsteps, hskip⟩ := skipStringChars_char hc
    rw [List.length_append] at hfuel
    obtain ⟨fuel, rfl⟩ := Nat.exists_eq_add_of_le' (show steps ≤ fuel by omega)
    rw [List.append_assoc, hskip, ih (show body.length ≤ fuel by omega)]

/-- Skipping a spelled text behind its opening quotation mark leaves what stands behind the closing
one. -/
theorem skipString_of_spells {cs body : List Char} (h : SpellsBody cs body) (rest : List Char) :
    skipString (body ++ rest) = .ok rest :=
  skipStringChars_of_spells h (by rw [List.length_append]; omega) rest

end CaseRouting.Json
