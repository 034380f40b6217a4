import CaseRouting.Json.Numeral
import Mathlib.Data.List.Basic

/-!
# Numbers as a text writes them

A written number has a sign or none, a whole part without needless zeros in front, and perhaps a
fraction and an exponent. Without these two it is exact in the 64-bit ranges; a negative zero and
everything else are floating-point numbers, if they are finite. The reader of numbers gives this
value, and skipping a number takes exactly its characters.
-/

namespace CaseRouting.Json

open Text (digitRun digitValue digitsValue)

/-- One decimal digit or more, which is what stands in the whole part, in a fraction and in an
exponent. -/
def IsDigits (ds : List Char) : Prop := ds ≠ [] ∧ ∀ c ∈ ds, c.isDigit = true

/-- The exponent of a written number: a mark, a sign or none, and digits. -/
structure Exponent where
  /-- The mark in front is a capital letter. -/
  capital : Bool
  /-- A plus or a minus sign, or none. -/
  sign : Option Bool
  digits : List Char
  isDigits : IsDigits digits

namespace Exponent

/-- The exponent has a minus sign, so that it makes the number smaller. -/
def down (e : Exponent) : Bool := e.sign.getD false

/-- The sign of the exponent, if it is written; a plus sign may be written too. -/
def signChars (e : Exponent) : List Char :=
  match e.sign with
  | none => []
  | some false => ['+']
  | some true => ['-']

/-- The mark of an exponent, a letter of either case. -/
def mark (e : Exponent) : Char := if e.capital then 'E' else 'e'

/-- The characters of an exponent, its mark in front. -/
def chars (e : Exponent) : List Char := e.mark :: (e.signChars ++ e.digits)

/-- A significand scaled by an exponent on top of the places it already has. An exponent that is too
large to be counted gives zero or no number at all. -/
def scale? (e : Exponent) (significand : Nat) (places : Int) : Option Float :=
  if maxExponent < digitsValue e.digits then
    if significand ≠ 0 ∧ ¬ e.down then none else scaled? 0 0
  else scaled? significand
    (if e.down then places - digitsValue e.digits else places + digitsValue e.digits)

end Exponent

/-- The characters of an exponent, if there is one. -/
def exponentChars : Option Exponent → List Char
  | none => []
  | some e => e.chars

/-- A significand scaled by its places and by an exponent, if there is one; a number that is not
finite is none. -/
def scaleBy? : Option Exponent → Nat → Int → Option Float
  | none, significand, places => scaled? significand places
  | some e, significand, places => e.scale? significand places

/-- A number as a text writes it: its characters in their parts, whatever its value. -/
structure Numeral where
  /-- There is a minus sign in front. -/
  negative : Bool
  whole : List Char
  fraction : Option (List Char)
  exponent : Option Exponent
  whole_isDigits : IsDigits whole
  /-- The whole part starts with a zero only when it is zero. -/
  no_leading_zero : whole.head? = some '0' → whole = ['0']
  fraction_isDigits : ∀ ds ∈ fraction, IsDigits ds

namespace Numeral

/-- The sign of the number, if it is written; only a minus sign can be. -/
def signChars (p : Numeral) : List Char := if p.negative then ['-'] else []

/-- The characters behind the whole part, which are those of the fraction and of the exponent. -/
def tailChars (p : Numeral) : List Char :=
  match p.fraction with
  | none => exponentChars p.exponent
  | some ds => '.' :: (ds ++ exponentChars p.exponent)

/-- The characters of a number, in the order in which they stand in the text. -/
def chars (p : Numeral) : List Char := p.signChars ++ (p.whole ++ p.tailChars)

/-- The integer, when it is written without fraction and exponent and fits the 64-bit ranges. A
zero with a minus sign is none. -/
def integer? (p : Numeral) : Option Int :=
  let n := digitsValue p.whole
  if p.fraction.isSome ∨ p.exponent.isSome then none
  else if p.negative then if 0 < n ∧ n ≤ maxNegative then some (-(n : Int)) else none
  else if n ≤ maxInteger then some n else none

/-- The 64-bit significand and the places it is scaled by. Digits that it has no room for are
dropped, and those of the whole part count as places. -/
def significand (p : Numeral) : Nat × Int :=
  let whole := appendDigits 0 p.whole
  match p.fraction with
  | none => (whole.1, whole.2.length)
  | some ds =>
    let all := appendDigits whole.1 ds
    (all.1, whole.2.length - (ds.length - all.2.length : Nat))

/-- The magnitude of the number as a floating-point number, if it is finite. -/
def magnitude? (p : Numeral) : Option Float :=
  scaleBy? p.exponent p.significand.1 p.significand.2

/-- The value of a number, unless it is too large: the integer where there is one, and otherwise a
floating-point number. -/
def value? (p : Numeral) : Option Number :=
  match p.integer? with
  | some n => some (.integer n)
  | none => p.magnitude?.map fun x => .decimal (if p.negative then -x else x)

end Numeral

/-- A text in which a number does not go on: no digit, point or mark of an exponent comes next. -/
def EndsNumber (rest : List Char) : Prop :=
  ∀ c ∈ rest.head?, c.isDigit = false ∧ c ≠ '.' ∧ c ≠ 'e' ∧ c ≠ 'E'

/-- A number with what follows it; one that is too large is refused as malformed. -/
def valued (rest : List Char) : Option Number → Except Error (Number × List Char)
  | some n => .ok (n, rest)
  | none => .error .malformed

/-- A run of digits ends where no digit follows, and takes all of them. -/
theorem digitRun_append {ds rest : List Char} (hds : ∀ c ∈ ds, c.isDigit = true)
    (hrest : ∀ c ∈ rest.head?, c.isDigit = false) : digitRun (ds ++ rest) = (ds, rest) := by
  have hstop : rest.takeWhile Char.isDigit = [] ∧ rest.dropWhile Char.isDigit = rest := by
    cases rest with
    | nil => exact ⟨rfl, rfl⟩
    | cons c rest =>
      have hc : c.isDigit = false := hrest c rfl
      simp [hc]
  unfold digitRun
  rw [List.takeWhile_append_of_pos hds, List.dropWhile_append_of_pos hds, hstop.1, hstop.2,
    List.append_nil]

/-- Appending digits to a number does not make it smaller, so that a number which fits has fitted
all along. -/
theorem le_foldl_digits (ds : List Char) (n : Nat) :
    n ≤ ds.foldl (fun n c => n * 10 + digitValue c) n := by
  induction ds generalizing n with
  | nil => exact Nat.le_refl n
  | cons c ds ih => exact Nat.le_trans (by omega) (ih (n * 10 + digitValue c))

/-- Digits whose number fits a significand are all appended to it, and none are left over. -/
theorem appendDigits_eq {ds : List Char} {significand : Nat}
    (h : ds.foldl (fun n c => n * 10 + digitValue c) significand ≤ maxSignificand) :
    appendDigits significand ds =
      (ds.foldl (fun n c => n * 10 + digitValue c) significand, []) := by
  induction ds generalizing significand with
  | nil => rfl
  | cons c ds ih =>
    have hfits : significand * 10 + digitValue c ≤ maxSignificand :=
      Nat.le_trans (le_foldl_digits ds _) h
    rw [appendDigits, if_pos hfits, ih h]
    rfl

/-- Digits whose number does not fit a significand leave a surplus, which tells that the number is
no exact integer. -/
theorem appendDigits_surplus {ds : List Char} {significand : Nat}
    (hs : significand ≤ maxSignificand)
    (h : maxSignificand < ds.foldl (fun n c => n * 10 + digitValue c) significand) :
    (appendDigits significand ds).2 ≠ [] := by
  induction ds generalizing significand with
  | nil => exact absurd h (Nat.not_lt.mpr hs)
  | cons c ds ih =>
    rw [appendDigits]
    split
    next hfits => exact ih hfits h
    next => exact List.cons_ne_nil _ _

/-- The mark of an exponent is one of two letters. -/
theorem Exponent.mark_eq (e : Exponent) : e.mark = 'e' ∨ e.mark = 'E' := by
  unfold mark
  cases e.capital with
  | false => exact Or.inl rfl
  | true => exact Or.inr rfl

/-- Behind the digits of a significand there is no further digit, whether an exponent follows or the
number ends. -/
theorem head_exponentChars (e : Option Exponent) {rest : List Char} (hrest : EndsNumber rest) :
    ∀ c ∈ (exponentChars e ++ rest).head?, c.isDigit = false := by
  intro c hc
  cases e with
  | none => exact (hrest c hc).1
  | some e =>
    obtain rfl : e.mark = c := Option.some.inj hc
    rcases e.mark_eq with h | h <;> rw [h] <;> decide

/-- Behind the whole part of a number there is no further digit, whether a point follows, an
exponent, or nothing. -/
theorem Numeral.head_tailChars (p : Numeral) {rest : List Char} (hrest : EndsNumber rest) :
    ∀ c ∈ (p.tailChars ++ rest).head?, c.isDigit = false := by
  unfold tailChars
  cases p.fraction with
  | none => exact head_exponentChars p.exponent hrest
  | some ds =>
    intro c hc
    obtain rfl : '.' = c := Option.some.inj hc
    decide

/-- A floating-point number by its magnitude, which must be finite; the sign is put on at the
end. -/
theorem decimalNumber_eq (negative : Bool) (significand : Nat) (places : Int) (rest : List Char) :
    decimalNumber negative significand places rest =
      valued rest ((scaled? significand places).map fun x =>
        .decimal (if negative then -x else x)) := by
  unfold decimalNumber
  cases scaled? significand places <;> rfl

/-- Digits begin with a digit, since there is at least one. -/
theorem IsDigits.exists_cons {ds : List Char} (h : IsDigits ds) :
    ∃ c more, ds = c :: more ∧ c.isDigit = true := by
  obtain ⟨c, more, rfl⟩ := List.exists_cons_of_ne_nil h.1
  exact ⟨c, more, rfl, h.2 c List.mem_cons_self⟩

/-- A digit is no sign, so that an exponent whose digits come at once has no sign. -/
theorem isDigit_ne_sign {c : Char} (h : c.isDigit = true) : c ≠ '+' ∧ c ≠ '-' := by
  constructor <;> rintro rfl <;> exact absurd h (by decide)

/-- Reading an exponent behind its mark takes its sign and its digits and scales the significand by
it. -/
theorem exponentPart_eq (e : Exponent) (negative : Bool) (significand : Nat) (places : Int)
    {rest : List Char} (hrest : EndsNumber rest) :
    exponentPart negative significand places (e.signChars ++ (e.digits ++ rest)) =
      valued rest ((e.scale? significand places).map fun x =>
        .decimal (if negative then -x else x)) := by
  have hrun : digitRun (e.digits ++ rest) = (e.digits, rest) :=
    digitRun_append e.isDigits.2 fun c hc => (hrest c hc).1
  obtain ⟨c, ds, hdigits, hc⟩ := e.isDigits.exists_cons
  have hscale : (if maxExponent < digitsValue e.digits then
        if significand ≠ 0 ∧ ¬ e.down then .error .malformed else decimalNumber negative 0 0 rest
      else decimalNumber negative significand
        (if e.down then places - digitsValue e.digits else places + digitsValue e.digits) rest) =
      valued rest ((e.scale? significand places).map fun x =>
        .decimal (if negative then -x else x)) := by
    unfold Exponent.scale?
    simp only [decimalNumber_eq]
    split
    next =>
      split
      next => rfl
      next => rfl
    next => rfl
  rw [← hscale]
  rw [hdigits, List.cons_append] at hrun
  unfold exponentPart Exponent.signChars Exponent.down
  cases e.sign with
  | none =>
    obtain ⟨hplus, hminus⟩ := isDigit_ne_sign hc
    simp [hdigits, hplus, hminus, hc, hrun]
  | some minus =>
    cases minus <;> simp [hdigits, hc, hrun]

/-- An exponent or the end of a number, behind all digits of the significand, gives the scaled
significand. -/
theorem optionalExponent_eq (e : Option Exponent) (negative : Bool) (significand : Nat)
    (places : Int) {rest : List Char} (hrest : EndsNumber rest) :
    optionalExponent negative significand places (exponentChars e ++ rest) =
      valued rest ((scaleBy? e significand places).map fun x =>
        .decimal (if negative then -x else x)) := by
  cases e with
  | none =>
    unfold optionalExponent
    split
    next heq => exact absurd rfl (hrest 'e' (congrArg List.head? heq)).2.2.1
    next heq => exact absurd rfl (hrest 'E' (congrArg List.head? heq)).2.2.2
    next => exact decimalNumber_eq negative significand places rest
  | some e =>
    have hread := exponentPart_eq e negative significand places hrest
    unfold exponentChars Exponent.chars
    rcases e.mark_eq with h | h <;> simpa [optionalExponent, scaleBy?, h] using hread

/-- Reading a fraction behind its point appends its digits to the significand, as far as they fit,
and goes on to the exponent. -/
theorem fractionPart_eq {ds : List Char} (hds : IsDigits ds) (e : Option Exponent)
    (negative : Bool) (significand : Nat) (places : Int) {rest : List Char}
    (hrest : EndsNumber rest) :
    fractionPart negative significand places (ds ++ (exponentChars e ++ rest)) =
      valued rest ((scaleBy? e (appendDigits significand ds).1
        (places - (ds.length - (appendDigits significand ds).2.length : Nat))).map fun x =>
          .decimal (if negative then -x else x)) := by
  have hrun : digitRun (ds ++ (exponentChars e ++ rest)) = (ds, exponentChars e ++ rest) :=
    digitRun_append hds.2 (head_exponentChars e hrest)
  unfold fractionPart
  rw [hrun]
  split
  next hnil => exact absurd (Prod.mk.inj hnil).1 hds.1
  next hnil => exact absurd (Prod.mk.inj hnil).1 hds.1
  next digits tail _ hparts =>
    obtain ⟨rfl, rfl⟩ := Prod.mk.inj hparts
    exact optionalExponent_eq e negative _ _ hrest

/-- Skipping a run of digits takes all of it and leaves what follows. -/
theorem skipDigits_eq {ds rest : List Char} (hds : IsDigits ds)
    (hrest : ∀ c ∈ rest.head?, c.isDigit = false) : skipDigits (ds ++ rest) = .ok rest := by
  unfold skipDigits
  rw [digitRun_append hds.2 hrest]
  split
  next hnil => exact absurd (Prod.mk.inj hnil).1 hds.1
  next tail _ hparts => rw [(Prod.mk.inj hparts).2]

/-- Skipping an exponent, if there is one, takes its characters and leaves what follows. -/
theorem skipExponent_eq (e : Option Exponent) {rest : List Char} (hrest : EndsNumber rest) :
    skipExponent (exponentChars e ++ rest) = .ok rest := by
  cases e with
  | none =>
    cases rest with
    | nil => rfl
    | cons c rest =>
      obtain ⟨-, -, hsmall, hcapital⟩ := hrest c rfl
      simp [skipExponent, exponentChars, hsmall, hcapital]
  | some e =>
    have hskip : skipDigits (e.digits ++ rest) = .ok rest :=
      skipDigits_eq e.isDigits fun c hc => (hrest c hc).1
    have hmark : e.mark = 'e' ∨ e.mark = 'E' := e.mark_eq
    unfold skipExponent exponentChars Exponent.chars
    cases hsign : e.sign with
    | none =>
      obtain ⟨c, ds, hdigits, hc⟩ := e.isDigits.exists_cons
      obtain ⟨hplus, hminus⟩ := isDigit_ne_sign hc
      rw [hdigits, List.cons_append] at hskip
      simp [Exponent.signChars, hmark, hsign, hdigits, hplus, hminus, hskip]
    | some minus => cases minus <;> simp [Exponent.signChars, hmark, hsign, hskip]

namespace Numeral

/-- A number that is written without fraction and exponent is exact if it fits, and otherwise it is
read as a floating-point number. -/
theorem integer_eq {p : Numeral} (hf : p.fraction = none) (he : p.exponent = none)
    (rest : List Char) :
    (if (appendDigits 0 p.whole).2.isEmpty then
        integerNumber p.negative (appendDigits 0 p.whole).1 rest
      else decimalNumber p.negative (appendDigits 0 p.whole).1
        (appendDigits 0 p.whole).2.length rest) = valued rest p.value? := by
  simp only [value?, integer?, magnitude?, significand, hf, he, Option.isSome_none,
    Bool.false_eq_true, or_self, if_false]
  by_cases hfits : digitsValue p.whole ≤ maxSignificand
  · have happend : appendDigits 0 p.whole = (digitsValue p.whole, []) := appendDigits_eq hfits
    have hmax : digitsValue p.whole ≤ maxInteger := hfits
    simp only [happend, List.isEmpty_nil, if_true, integerNumber, hmax, List.length_nil]
    cases p.negative with
    | false => rfl
    | true =>
      simp only [if_true]
      split
      next => rfl
      next => exact decimalNumber_eq true _ 0 rest
  · have hsurplus : (appendDigits 0 p.whole).2 ≠ [] :=
      appendDigits_surplus (Nat.zero_le _) (Nat.not_le.mp hfits)
    have hmax : ¬ digitsValue p.whole ≤ maxInteger := hfits
    have hmin : ¬ digitsValue p.whole ≤ maxNegative := fun h =>
      hfits (Nat.le_trans h (by decide))
    simp only [List.isEmpty_iff, hsurplus, hmax, hmin, and_false, if_false, ite_self]
    exact decimalNumber_eq _ _ _ rest

/-- The whole part never has a needless zero in front, so that a zero is followed by no digit. -/
theorem whole_ne_zero_cons (p : Numeral) (c : Char) (ds : List Char) :
    p.whole ≠ '0' :: c :: ds := by
  intro hwhole
  have hzero := p.no_leading_zero (by rw [hwhole]; rfl)
  rw [hwhole] at hzero
  simp at hzero

/-- A number with a fraction or an exponent is a floating-point number, even if its value is
whole. -/
theorem value?_eq_decimal {p : Numeral} (h : p.fraction.isSome ∨ p.exponent.isSome) :
    p.value? = p.magnitude?.map fun x => .decimal (if p.negative then -x else x) := by
  unfold value? integer?
  rw [if_pos h]

/-- Reading a number behind its sign gives its value, whichever parts it has. -/
theorem unsignedNumber_eq (p : Numeral) {rest : List Char} (hrest : EndsNumber rest) :
    unsignedNumber p.negative (p.whole ++ (p.tailChars ++ rest)) = valued rest p.value? := by
  have hrun : digitRun (p.whole ++ (p.tailChars ++ rest)) = (p.whole, p.tailChars ++ rest) :=
    digitRun_append p.whole_isDigits.2 (p.head_tailChars hrest)
  unfold unsignedNumber
  rw [hrun]
  split
  next hnil => exact absurd (Prod.mk.inj hnil).1 p.whole_isDigits.1
  next hnil => exact absurd (Prod.mk.inj hnil).1 p.whole_isDigits.1
  next hzero => exact absurd (Prod.mk.inj hzero).1 (p.whole_ne_zero_cons _ _)
  next digits tail _ _ hparts =>
    obtain ⟨rfl, rfl⟩ := Prod.mk.inj hparts
    cases hf : p.fraction with
    | some ds =>
      have hread := fractionPart_eq (p.fraction_isDigits ds hf) p.exponent p.negative
        (appendDigits 0 p.whole).1 (appendDigits 0 p.whole).2.length hrest
      rw [value?_eq_decimal (Or.inl (by rw [hf]; rfl))]
      simpa [tailChars, magnitude?, significand, hf] using hread
    | none =>
      cases he : p.exponent with
      | some e =>
        have hread := exponentPart_eq e p.negative (appendDigits 0 p.whole).1
          (appendDigits 0 p.whole).2.length hrest
        rw [value?_eq_decimal (Or.inr (by rw [he]; rfl))]
        rcases e.mark_eq with h | h <;>
          simpa [tailChars, exponentChars, Exponent.chars, magnitude?, scaleBy?, significand,
            hf, he, h] using hread
      | none =>
        rw [← integer_eq hf he rest]
        simp only [tailChars, exponentChars, hf, he, List.nil_append]
        split
        next => exact absurd rfl (hrest '.' rfl).2.1
        next => exact absurd rfl (hrest 'e' rfl).2.2.1
        next => exact absurd rfl (hrest 'E' rfl).2.2.2
        next => rfl

/-- Reading a number gives its value and takes its characters; a number that is too large is
refused. -/
theorem numeral_chars (p : Numeral) {rest : List Char} (hrest : EndsNumber rest) :
    numeral (p.chars ++ rest) = valued rest p.value? := by
  have hread := p.unsignedNumber_eq hrest
  unfold chars signChars
  obtain ⟨c, ds, hwhole, hc⟩ := p.whole_isDigits.exists_cons
  cases hneg : p.negative with
  | false =>
    simp only [hneg, hwhole, List.cons_append] at hread
    simp [numeral, hwhole, (isDigit_ne_sign hc).2, hread]
  | true =>
    rw [hneg] at hread
    simpa [numeral] using hread

/-- Skipping the part of a number behind its whole part takes the fraction and the exponent, each if
there is one. -/
theorem skipTail_eq (p : Numeral) {rest : List Char} (hrest : EndsNumber rest) :
    (match p.tailChars ++ rest with
      | '.' :: rest => do
        let rest ← skipDigits rest
        skipExponent rest
      | rest => skipExponent rest) = .ok rest := by
  unfold tailChars
  cases hf : p.fraction with
  | some ds =>
    have hskip : skipDigits (ds ++ (exponentChars p.exponent ++ rest)) =
        .ok (exponentChars p.exponent ++ rest) :=
      skipDigits_eq (p.fraction_isDigits ds hf) (head_exponentChars p.exponent hrest)
    simp [hskip, bind, Except.bind, skipExponent_eq p.exponent hrest]
  | none =>
    dsimp only
    split
    next heq =>
      cases he : p.exponent with
      | none =>
        rw [he] at heq
        exact absurd rfl (hrest '.' (congrArg List.head? heq)).2.1
      | some e =>
        rw [he] at heq
        obtain hmark : e.mark = '.' := Option.some.inj (congrArg List.head? heq)
        rcases e.mark_eq with h | h <;> rw [h] at hmark <;> exact absurd hmark (by decide)
    next => exact skipExponent_eq p.exponent hrest

/-- Skipping a number takes its characters, whether its value could be represented or not. -/
theorem skipNumeral_chars (p : Numeral) {rest : List Char} (hrest : EndsNumber rest) :
    skipNumeral (p.chars ++ rest) = .ok rest := by
  have hrun : digitRun (p.whole ++ (p.tailChars ++ rest)) = (p.whole, p.tailChars ++ rest) :=
    digitRun_append p.whole_isDigits.2 (p.head_tailChars hrest)
  have htail := p.skipTail_eq hrest
  obtain ⟨c, ds, hwhole, hc⟩ := p.whole_isDigits.exists_cons
  have hunsigned : skipNumeral (c :: (ds ++ (p.tailChars ++ rest))) = .ok rest := by
    rw [hwhole, List.cons_append] at hrun
    unfold skipNumeral
    split
    next heq => exact absurd (List.cons.inj heq).1 (isDigit_ne_sign hc).2
    next =>
      dsimp only
      rw [hrun, ← hwhole]
      split
      next hnil => exact absurd (Prod.mk.inj hnil).1 p.whole_isDigits.1
      next hzero => exact absurd (Prod.mk.inj hzero).1 (p.whole_ne_zero_cons _ _)
      next hparts =>
        rw [(Prod.mk.inj hparts).2] at htail
        exact htail
      next tail _ _ hnopoint hparts =>
        rw [(Prod.mk.inj hparts).2] at htail
        split at htail
        next fraction => exact absurd rfl (hnopoint fraction)
        next => exact htail
  unfold chars signChars
  cases p.negative with
  | false => simpa [hwhole] using hunsigned
  | true => simpa [skipNumeral, hwhole, (isDigit_ne_sign hc).2] using hunsigned

end Numeral

end CaseRouting.Json
