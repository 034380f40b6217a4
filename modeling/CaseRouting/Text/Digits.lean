/-!
# Digits

Runs of decimal digits and the numbers they denote, and the values of hexadecimal digits.
-/

namespace CaseRouting.Text

/-- The decimal digits at the front of a text, and the rest, which begins with no digit. -/
def digitRun (cs : List Char) : List Char × List Char :=
  (cs.takeWhile Char.isDigit, cs.dropWhile Char.isDigit)

/-- The value of a decimal digit, by its distance from the zero. -/
def digitValue (c : Char) : Nat := c.toNat - 48

/-- The number that a run of decimal digits denotes; an empty run denotes zero. -/
def digitsValue (cs : List Char) : Nat := cs.foldl (fun n c => n * 10 + digitValue c) 0

/-- The value of a hexadecimal digit in either case, and none for any other character. -/
def hexValue? (c : Char) : Option Nat :=
  if '0' ≤ c ∧ c ≤ '9' then some (c.toNat - 48)
  else if 'a' ≤ c ∧ c ≤ 'f' then some (c.toNat - 87)
  else if 'A' ≤ c ∧ c ≤ 'F' then some (c.toNat - 55)
  else none

/-- The number that digits denote to a base of at most sixteen, behind the value of the digits
before them. -/
def radixNumber? (radix : Nat) : Nat → List Char → Option Nat
  | value, [] => some value
  | value, c :: rest =>
    match hexValue? c with
    | some digit => if digit < radix then radixNumber? radix (value * radix + digit) rest else none
    | none => none

end CaseRouting.Text
