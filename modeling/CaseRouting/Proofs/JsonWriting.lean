import CaseRouting.Json.Written
import CaseRouting.Proofs.JsonGrammar

/-!
# What a written value says

The compact text of a value spells the value, provided that it does so for the numbers within. An
integer of the 64-bit ranges is written in its digits, and every character of a text is written as
itself or as an escape that stands for it.
-/

namespace CaseRouting.Json

open Text (digitsValue hexValue?)

section Integers

/-- The digits of a natural number denote it. -/
theorem digitsValue_natural (n : Nat) : digitsValue (Decimal.natural n) = n := by
  have hfold := Nat.ofDigitChars_ten_toDigits (n := n)
  rw [Nat.ofDigitChars_eq_foldl] at hfold
  unfold digitsValue Decimal.natural
  simpa [Nat.mul_comm, Text.digitValue] using hfold

/-- A natural number is written in digits, with one digit at least. -/
theorem isDigits_natural (n : Nat) : IsDigits (Decimal.natural n) :=
  ⟨Nat.toDigits_ne_nil, fun _ => Nat.isDigit_of_mem_toDigits (by decide) (by decide)⟩

/-- Only zero is written with a zero in front. The first digit is that of a tenth of the number,
which would be zero, and the number would be below ten. -/
theorem natural_head (n : Nat) (h : (Decimal.natural n).head? = some '0') :
    Decimal.natural n = ['0'] := by
  unfold Decimal.natural at h ⊢
  induction n using Nat.strongRecOn with
  | _ n ih =>
    by_cases hn : n < 10
    · rw [Nat.toDigits_of_lt_base hn] at h ⊢
      rw [Option.some.inj h]
    · have hlarge : 10 ≤ n := Nat.le_of_not_lt hn
      rw [Nat.toDigits_of_base_le (by decide) hlarge] at h
      have hfront : (Nat.toDigits 10 (n / 10)).head? = some '0' := by
        rwa [List.head?_append_of_ne_nil _ Nat.toDigits_ne_nil] at h
      have hzero := ih (n / 10) (by omega) hfront
      have hvalue := digitsValue_natural (n / 10)
      unfold Decimal.natural at hvalue
      rw [hzero] at hvalue
      have : digitsValue ['0'] = 0 := by decide
      omega

/-- The written form of a natural number with or without a minus sign, as a text has it. -/
def writtenNumeral (negative : Bool) (n : Nat) : Numeral where
  negative := negative
  whole := Decimal.natural n
  fraction := none
  exponent := none
  whole_isDigits := isDigits_natural n
  no_leading_zero := natural_head n
  fraction_isDigits := nofun

/-- An integer of the 64-bit ranges is spelled by its digits, with a minus sign if it is
negative. -/
theorem spells_integer {i : Int} (hlow : -(maxNegative : Int) ≤ i) (hhigh : i ≤ maxInteger) :
    Spells (.number (.integer i)) (Number.integer i).written := by
  cases i with
  | ofNat n =>
    have hfits : n ≤ maxInteger := Int.ofNat_le.mp hhigh
    have hvalue : (writtenNumeral false n).value? = some (.integer n) := by
      simp [Numeral.value?, Numeral.integer?, writtenNumeral, digitsValue_natural, hfits]
    simpa [writtenNumeral, Numeral.chars, Numeral.signChars, Numeral.tailChars, exponentChars,
      Number.written, Decimal.integer] using Spells.number hvalue
  | negSucc n =>
    have hfits : n + 1 ≤ maxNegative := by
      rw [Int.negSucc_eq] at hlow
      omega
    have hvalue : (writtenNumeral true (n + 1)).value? = some (.integer (.negSucc n)) := by
      simp [Numeral.value?, Numeral.integer?, writtenNumeral, digitsValue_natural, hfits,
        Int.negSucc_eq]
    simpa [writtenNumeral, Numeral.chars, Numeral.signChars, Numeral.tailChars, exponentChars,
      Number.written, Decimal.integer] using Spells.number hvalue

end Integers

section Texts

/-- A hexadecimal digit has the value that it is written for. -/
theorem hexValue?_hexDigit : ∀ n < 16, hexValue? (hexDigit n) = some n := by
  decide

/-- A written character spells the character: a control by an escape, and everything else by itself
or by a short escape. -/
theorem spellsChar_writtenChar (c : Char) : SpellsChar c (writtenChar c) := by
  unfold writtenChar
  split
  next h => exact .short (by simp [shortEscapes, h])
  split
  next h => exact .short (by simp [shortEscapes, h])
  split
  next h => exact .short (by simp [shortEscapes, h])
  split
  next h => exact .short (by simp [shortEscapes, h])
  split
  next h => exact .short (by simp [shortEscapes, h])
  split
  next h => exact .short (by simp [shortEscapes, h])
  split
  next h => exact .short (by simp [shortEscapes, h])
  split
  next hcontrol =>
    have hvalue : ((0 * 16 + 0) * 16 + c.toNat / 16) * 16 + c.toNat % 16 = c.toNat := by omega
    have hunit := SpellsUnit.digits (show hexValue? '0' = some 0 by decide)
      (show hexValue? '0' = some 0 by decide) (hexValue?_hexDigit (c.toNat / 16) (by omega))
      (hexValue?_hexDigit (c.toNat % 16) (by omega))
    rw [hvalue] at hunit
    exact .unit hunit
  next hquote hslash _ _ _ _ _ hcontrol =>
    exact .plain hquote hslash (Nat.le_of_not_lt hcontrol)

/-- A written text spells its characters, one behind the other, and its mark closes it. -/
theorem spellsBody_written (cs : List Char) : SpellsBody cs (cs.flatMap writtenChar ++ ['"']) := by
  induction cs with
  | nil => exact .close
  | cons c cs ih =>
    rw [List.flatMap_cons, List.append_assoc]
    exact .char (spellsChar_writtenChar c) ih

end Texts

/-- Nothing is white space, too, for a compact text has none. -/
theorem blank_nil : Blank [] := List.forall_mem_nil _

/-- The further elements of a list are spelled up to its bracket, each behind a comma. -/
theorem spellsItems_writtenMore {items : List Json} (h : ∀ v ∈ items, Spells v v.written) :
    ∃ body, SpellsItems false items body ∧ writtenMoreItems items = body ++ [']'] := by
  induction items with
  | nil => exact ⟨[], .nil, rfl⟩
  | cons v items ih =>
    obtain ⟨body, hbody, hmore⟩ := ih fun w hw => h w (List.mem_cons_of_mem _ hw)
    refine ⟨_, .cons (.later blank_nil blank_nil) (h v List.mem_cons_self) hbody, ?_⟩
    simp [writtenMoreItems, hmore]

/-- The elements of a list are spelled up to its bracket, the first one without a comma. -/
theorem spellsItems_written {items : List Json} (h : ∀ v ∈ items, Spells v v.written) :
    ∃ body, SpellsItems true items body ∧ writtenItems items = body ++ [']'] := by
  cases items with
  | nil => exact ⟨[], .nil, rfl⟩
  | cons v items =>
    obtain ⟨body, hbody, hmore⟩ :=
      spellsItems_writtenMore fun w hw => h w (List.mem_cons_of_mem _ hw)
    refine ⟨_, .cons (.first blank_nil) (h v List.mem_cons_self) hbody, ?_⟩
    simp [writtenItems, hmore]

/-- The further members of an object are spelled up to its brace, each behind a comma. -/
theorem spellsMembers_writtenMore {members : List (String × Json)}
    (h : ∀ m ∈ members, Spells m.2 m.2.written) :
    ∃ body, SpellsMembers false members body ∧ writtenMoreMembers members = body ++ ['\x7d'] := by
  induction members with
  | nil => exact ⟨[], .nil, rfl⟩
  | cons m members ih =>
    obtain ⟨body, hbody, hmore⟩ := ih fun n hn => h n (List.mem_cons_of_mem _ hn)
    refine ⟨_, .cons (.later blank_nil blank_nil) (spellsBody_written m.1.toList)
      (.colon blank_nil blank_nil) (h m List.mem_cons_self) hbody, ?_⟩
    simp [writtenMoreMembers, writtenText, hmore]

/-- The members of an object are spelled up to its brace, the first one without a comma. -/
theorem spellsMembers_written {members : List (String × Json)}
    (h : ∀ m ∈ members, Spells m.2 m.2.written) :
    ∃ body, SpellsMembers true members body ∧ writtenMembers members = body ++ ['\x7d'] := by
  cases members with
  | nil => exact ⟨[], .nil, rfl⟩
  | cons m members =>
    obtain ⟨body, hbody, hmore⟩ :=
      spellsMembers_writtenMore fun n hn => h n (List.mem_cons_of_mem _ hn)
    refine ⟨_, .cons (.first blank_nil) (spellsBody_written m.1.toList)
      (.colon blank_nil blank_nil) (h m List.mem_cons_self) hbody, ?_⟩
    simp [writtenMembers, writtenText, hmore]

/-- A written value spells the value when the numbers within do; of nothing else does the spelling
depend on the value. -/
theorem spells_written {v : Json}
    (hnumbers : ∀ n, Within (.number n) v → Spells (.number n) n.written) : Spells v v.written := by
  induction v using Json.induction with
  | null => exact .null
  | boolean b => cases b with
    | true => exact .trueWord
    | false => exact .falseWord
  | number n => exact hnumbers n .self
  | text s => exact .text (spellsBody_written s.toList)
  | list items ih =>
    obtain ⟨body, hbody, hwritten⟩ :=
      spellsItems_written fun w hw => ih w hw fun n hn => hnumbers n (.item hw hn)
    rw [written, hwritten]
    exact .list hbody blank_nil
  | object members ih =>
    obtain ⟨body, hbody, hwritten⟩ :=
      spellsMembers_written fun m hm => ih m hm fun n hn => hnumbers n (.member hm hn)
    rw [written, hwritten]
    exact .object hbody blank_nil

/-- The compact text of a value says the value when the numbers within are spelled. -/
theorem says_compact {v : Json}
    (hnumbers : ∀ n, Within (.number n) v → Spells (.number n) n.written) : Says v.compact v :=
  ⟨[], v.written, [], blank_nil, spells_written hnumbers, blank_nil, by
    simp [compact]⟩

end CaseRouting.Json
