/-!
# The shortest decimal of a binary number

A finite binary floating-point number stands for every real that rounds to it. Among the decimals
in that interval the shortest is chosen, and among the shortest the nearest to the number. The
search runs over the decimal grids from coarse to fine: on each grid only the two neighbours of the
number have to be tested, because a grid that meets the interval at all meets it in one of them.
Everything is exact arithmetic on natural numbers.
-/

namespace CaseRouting.Decimal

/-- The magnitude of a finite binary number: `significand · 2 ^ exponent`. -/
structure Binary where
  /-- The integer significand, below `2 ^ 53`. -/
  significand : Nat
  /-- The power of two it is scaled by. -/
  exponent : Int
  /-- The next smaller number is only half as far away as the next larger one. -/
  narrowBelow : Bool

/-- The magnitude encoded by the 64 bits of a double; the sign bit is not looked at. A number with
the least exponent lacks the hidden bit, and it counts from the same place as the smallest that has
it. -/
def Binary.ofBits (bits : Nat) : Binary :=
  let hidden : Nat := 0x10000000000000
  let fraction : Nat := bits % hidden
  let power : Nat := bits / hidden % 0x800
  if power = 0 then ⟨fraction, -1074, false⟩
  else ⟨hidden + fraction, (power : Int) - 1075, fraction == 0 && power != 1⟩

/-- A decimal `digits · 10 ^ exponent`. -/
structure Digits where
  /-- The digits, read as one natural number. -/
  digits : Nat
  /-- The power of ten they are scaled by. -/
  exponent : Int

/-- Drops the zeros at the end of the digits, at most `fuel` of them, and scales by a higher power
of ten instead, so that the number stays the same. -/
def Digits.trim : Nat → Digits → Digits
  | 0, d => d
  | fuel + 1, d =>
    if d.digits ≠ 0 ∧ d.digits % 10 = 0 then Digits.trim fuel ⟨d.digits / 10, d.exponent + 1⟩
    else d

/-- The exponent of the first decimal digit of a positive number. The number is scaled by a power of
ten that makes it at least one, however small it is, and its digits are counted. -/
def Binary.leadingPlace (b : Binary) : Int :=
  let scaled := b.significand * Nat.pow 10 400 * Nat.pow 2 b.exponent.toNat /
    Nat.pow 2 (-b.exponent).toNat
  ((Nat.toDigits 10 scaled).length : Int) - 401

/-- The neighbours of the number on the grid of multiples of `10 ^ place` that round to it, the
nearer one first chosen; none when neither does. All quantities are counted in quarters of the
last binary place, so that the ends of the interval are whole. -/
def Binary.onGrid? (b : Binary) (place : Int) : Option Digits :=
  let shift := b.exponent - 2
  let grid := Nat.pow 10 place.toNat * Nat.pow 2 (-shift).toNat
  let unit := Nat.pow 10 (-place).toNat * Nat.pow 2 shift.toNat
  let value := 4 * b.significand * unit
  let low := (4 * b.significand - if b.narrowBelow then 1 else 2) * unit
  let high := (4 * b.significand + 2) * unit
  let closed := b.significand % 2 == 0
  let inside (point : Nat) : Bool :=
    if closed then low ≤ point && point ≤ high else low < point && point < high
  let below := value / grid
  let hitBelow := inside (below * grid)
  let hitAbove := inside ((below + 1) * grid)
  let rest := value - below * grid
  let preferAbove := 2 * rest > grid || (2 * rest == grid && below % 2 == 1)
  if hitBelow && hitAbove then some ⟨if preferAbove then below + 1 else below, place⟩
  else if hitBelow then some ⟨below, place⟩
  else if hitAbove then some ⟨below + 1, place⟩
  else none

/-- The first hit on the grids that start with `count` digits and grow by one digit at a time. The
first hit is the shortest, for the grids before it hold all decimals with fewer digits. -/
def Binary.search (b : Binary) (leading : Int) : Nat → Nat → Digits
  | 0, _ => ⟨b.significand, b.exponent⟩
  | fuel + 1, count =>
    match b.onGrid? (leading - count + 1) with
    | some d => d.trim 20
    | none => b.search leading fuel (count + 1)

/-- The shortest decimal that rounds to the number. Seventeen digits always suffice. -/
def Binary.shortest (b : Binary) : Digits :=
  if b.significand = 0 then ⟨0, 0⟩ else b.search b.leadingPlace 18 1

end CaseRouting.Decimal
