import CaseRouting.Decimal.Shortest

/-!
# Decimal numbers as text

Integers are written in decimal without leading zeros. A binary floating-point number is written
with its shortest digits: positionally, with at least one digit on both sides of the point, when
its first digit lies between the fifth place after the point and the sixteenth before it; otherwise
in scientific form with an exponent that has a sign but no padding.
-/

namespace CaseRouting.Decimal

/-- The decimal digits of a natural number, without a zero in front; zero itself is a single
digit. -/
def natural (n : Nat) : List Char := Nat.toDigits 10 n

/-- An integer: a minus sign when it is negative, then its digits. There is no plus sign. -/
def integer : Int → List Char
  | .ofNat n => natural n
  | .negSucc n => '-' :: natural (n + 1)

/-- A decimal in positional or scientific form, as the place of its point demands. A number without
places behind the point gets a zero there, so that it is not taken for an integer. -/
def Digits.written (d : Digits) : List Char :=
  let digits := natural d.digits
  let point := (digits.length : Int) + d.exponent
  if 0 ≤ d.exponent ∧ point ≤ 16 then
    digits ++ List.replicate d.exponent.toNat '0' ++ ['.', '0']
  else if 0 < point ∧ point ≤ 16 then
    digits.take point.toNat ++ '.' :: digits.drop point.toNat
  else if -5 < point ∧ point ≤ 0 then
    '0' :: '.' :: (List.replicate (-point).toNat '0' ++ digits)
  else
    let fraction := if digits.length = 1 then [] else '.' :: digits.drop 1
    let sign := if point - 1 < 0 then '-' else '+'
    digits.take 1 ++ fraction ++ 'e' :: sign :: natural (point - 1).natAbs

/-- A finite floating-point number, with the fewest digits that are read back as the same number.
Zero keeps its sign. -/
def float (x : Float) : List Char :=
  let bits := x.toBits.toNat
  let magnitude := (Binary.ofBits bits).shortest.written
  if bits < 0x8000000000000000 then magnitude else '-' :: magnitude

end CaseRouting.Decimal
