import CaseRouting.Json.Reader
import CaseRouting.Text.Digits

/-!
# Reading numbers

An integer part without fraction and exponent is exact as long as it fits the 64-bit ranges.
Everything else is a floating-point number, computed from a significand of at most 64 bits and a
power of ten: digits of the integer part that no longer fit count as powers of ten, digits of the
fraction that no longer fit are dropped. The significand is multiplied by the power of ten once, or
divided by powers of at most three hundred and eight places. A number too large to be finite is
refused; one too small becomes a zero that keeps its sign.
-/

namespace CaseRouting.Json

open Text (digitRun digitValue digitsValue)

/-- The largest significand, of 64 bits. It is also the largest integer that is read exactly. -/
def maxSignificand : Nat := 0xFFFFFFFFFFFFFFFF

/-- The largest magnitude of an exponent that is looked at. Beyond it the number is a zero or too
large, whatever its digits. -/
def maxExponent : Nat := 0x7FFFFFFF

/-- Appends digits to a significand while it fits, and returns the digits that no longer do. -/
def appendDigits : Nat → List Char → Nat × List Char
  | significand, [] => (significand, [])
  | significand, c :: cs =>
    let next := significand * 10 + digitValue c
    if next ≤ maxSignificand then appendDigits next cs else (significand, c :: cs)

/-- A power of ten, rounded to the nearest floating-point number. -/
def powerOfTen (places : Nat) : Float := Float.ofScientific 1 false places

/-- Divides by a power of ten, in steps of at most three hundred and eight places, until nothing
is left to divide. -/
def dividePlaces (x : Float) (places : Nat) : Float :=
  if places ≤ 308 then x / powerOfTen places
  else if x == 0 then x
  else dividePlaces (x / powerOfTen 308) (places - 308)
termination_by places

/-- The magnitude `significand · 10 ^ exponent`, if it is finite. -/
def scaled? (significand : Nat) (exponent : Int) : Option Float :=
  let x := significand.toUInt64.toFloat
  if exponent < 0 then some (dividePlaces x (-exponent).toNat)
  else if exponent ≤ 308 then
    let y := x * powerOfTen exponent.toNat
    if y.isInf then none else some y
  else if significand = 0 then some x
  else none

/-- A floating-point number from its parts, refused if its magnitude is not finite. The sign is put
in front at the end, so that a zero keeps it. -/
def decimalNumber (negative : Bool) (significand : Nat) (exponent : Int) (rest : List Char) :
    Except Error (Number × List Char) :=
  match scaled? significand exponent with
  | some x => .ok (.decimal (if negative then -x else x), rest)
  | none => .error .malformed

/-- The exponent of a number, behind its mark. One too large to be looked at refuses a number that
it would make larger, unless that is zero, and makes any other a zero. -/
def exponentPart (negative : Bool) (significand : Nat) (exponent : Int) (cs : List Char) :
    Except Error (Number × List Char) :=
  let (down, cs) := match cs with
    | '+' :: rest => (false, rest)
    | '-' :: rest => (true, rest)
    | _ => (false, cs)
  match cs with
  | [] => .error .endOfText
  | c :: _ =>
    if c.isDigit then
      let (digits, rest) := digitRun cs
      let places := digitsValue digits
      if maxExponent < places then
        if significand ≠ 0 ∧ ¬ down then .error .malformed
        else decimalNumber negative 0 0 rest
      else decimalNumber negative significand
        (if down then exponent - places else exponent + places) rest
    else .error .malformed

/-- An exponent if one is there, behind all digits of the significand; without one the number ends
here. -/
def optionalExponent (negative : Bool) (significand : Nat) (exponent : Int) (cs : List Char) :
    Except Error (Number × List Char) :=
  match cs with
  | 'e' :: rest => exponentPart negative significand exponent rest
  | 'E' :: rest => exponentPart negative significand exponent rest
  | _ => decimalNumber negative significand exponent cs

/-- The fraction of a number, behind its point, with at least one digit. The digits that still fit
join the significand, and the exponent counts them. -/
def fractionPart (negative : Bool) (significand : Nat) (exponent : Int) (cs : List Char) :
    Except Error (Number × List Char) :=
  match digitRun cs with
  | ([], []) => .error .endOfText
  | ([], _ :: _) => .error .malformed
  | (digits, rest) =>
    let (significand, dropped) := appendDigits significand digits
    optionalExponent negative significand (exponent - (digits.length - dropped.length : Nat)) rest

/-- An integer: exact in the 64-bit ranges; a negative zero and an integer below the range are
floating-point numbers. -/
def integerNumber (negative : Bool) (significand : Nat) (rest : List Char) :
    Except Error (Number × List Char) :=
  if negative then
    if 0 < significand ∧ significand ≤ maxNegative then .ok (.integer (-(significand : Int)), rest)
    else decimalNumber true significand 0 rest
  else .ok (.integer significand, rest)

/-- A number without its sign. A zero in front of other digits is refused, and a fraction or an
exponent makes it a floating-point number. -/
def unsignedNumber (negative : Bool) (cs : List Char) : Except Error (Number × List Char) :=
  match digitRun cs with
  | ([], []) => .error .endOfText
  | ([], _ :: _) => .error .malformed
  | ('0' :: _ :: _, _) => .error .malformed
  | (digits, rest) =>
    let (significand, surplus) := appendDigits 0 digits
    match rest with
    | '.' :: rest => fractionPart negative significand surplus.length rest
    | 'e' :: rest => exponentPart negative significand surplus.length rest
    | 'E' :: rest => exponentPart negative significand surplus.length rest
    | _ =>
      if surplus.isEmpty then integerNumber negative significand rest
      else decimalNumber negative significand surplus.length rest

/-- A number, from its sign or first digit on. Only a minus sign may stand in front. -/
def numeral : Reader Number
  | '-' :: rest => unsignedNumber true rest
  | cs => unsignedNumber false cs

/-- Skips one digit or more. A text that ends here is refused as one that breaks the grammar. -/
def skipDigits (cs : List Char) : Except Error (List Char) :=
  match digitRun cs with
  | ([], _) => .error .malformed
  | (_, rest) => .ok rest

/-- Skips an exponent if one is there. Its size does not matter, for no number is made of it. -/
def skipExponent (cs : List Char) : Except Error (List Char) :=
  match cs with
  | [] => .ok []
  | c :: rest =>
    if c = 'e' ∨ c = 'E' then
      match rest with
      | '+' :: digits => skipDigits digits
      | '-' :: digits => skipDigits digits
      | digits => skipDigits digits
    else .ok cs

/-- Skips a number, of which only the form is checked. A number too large to be read can thus be
skipped. -/
def skipNumeral (cs : List Char) : Except Error (List Char) :=
  let cs := match cs with
    | '-' :: rest => rest
    | _ => cs
  match digitRun cs with
  | ([], _) => .error .malformed
  | ('0' :: _ :: _, _) => .error .malformed
  | (_, '.' :: rest) => do
    let rest ← skipDigits rest
    skipExponent rest
  | (_, rest) => skipExponent rest

end CaseRouting.Json
