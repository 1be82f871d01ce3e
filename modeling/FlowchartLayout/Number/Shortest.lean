/-!
# The shortest decimal that reads back

A binary number is written with the fewest decimal digits from which it can be read back, and with
the digits nearest to it among those. The search runs over decimal grids from coarse to fine and
stops at the first one with a point in the interval of the reals that round to the number.

## Main definitions

- `Decimal` — a number `digits * 10 ^ exponent`
- `RoundingInterval` — a number with the reals around it that round to it, as integers
- `Decimal.shortest` — the shortest decimal of a binary number
-/

namespace FlowchartLayout

/-- The number `digits * 10 ^ exponent`. -/
structure Decimal where
  digits : Nat
  exponent : Int
  deriving DecidableEq

/-- Three reals `low < value < high`, all in units of `10 ^ exponent`. The ends are `inclusive` if
they round to the value too. -/
structure RoundingInterval where
  low : Nat
  value : Nat
  high : Nat
  exponent : Int
  inclusive : Bool
  deriving DecidableEq

namespace RoundingInterval

/-- The reals nearest to `m * 2 ^ q`. Its lower neighbour is twice as near if `narrowBelow`. Half
way to a neighbour is taken by the even mantissa. -/
def ofBinary (m : Nat) (q : Int) (narrowBelow : Bool) : RoundingInterval :=
  let scale := if 2 ≤ q then Nat.pow 2 (q - 2).toNat else Nat.pow 5 (2 - q).toNat
  { low := (4 * m - if narrowBelow then 1 else 2) * scale
    value := 4 * m * scale
    high := (4 * m + 2) * scale
    exponent := min (q - 2) 0
    inclusive := m % 2 == 0 }

/-- The point reads back as the value. -/
def contains (i : RoundingInterval) (x : Nat) : Bool :=
  if i.inclusive then decide (i.low ≤ x) && decide (x ≤ i.high)
  else decide (i.low < x) && decide (x < i.high)

/-- The multiple of `10 ^ k` nearest to the value among its two neighbours on that grid that read
back; of two equally near ones the even multiple. -/
def onGrid (i : RoundingInterval) (k : Nat) : Option Nat :=
  let unit := Nat.pow 10 k
  let below := i.value / unit
  let rest := i.value % unit
  let lowFits := i.contains (below * unit)
  let highFits := i.contains ((below + 1) * unit)
  if lowFits && highFits then
    some (if 2 * rest < unit || (2 * rest == unit && below % 2 == 0) then below else below + 1)
  else if lowFits then some below
  else if highFits then some (below + 1)
  else none

/-- The first hit on the grids `10 ^ k`, `10 ^ (k - 1)`, …, `1`. -/
def search (i : RoundingInterval) : Nat → Decimal
  | 0 => ⟨i.value, i.exponent⟩
  | k + 1 =>
    match i.onGrid (k + 1) with
    | some d => ⟨d, i.exponent + (k + 1 : Nat)⟩
    | none => i.search k

end RoundingInterval

namespace Decimal

/-- The decimal digits of a natural number, the first one first. -/
def digitsOf (n : Nat) : List Char :=
  Nat.toDigits 10 n

/-- The same number without zeros at the end of its digits. -/
def trimZeros (d : Decimal) : Decimal :=
  let zeros := ((digitsOf d.digits).reverse.takeWhile (· == '0')).length
  if d.digits = 0 then d else ⟨d.digits / Nat.pow 10 zeros, d.exponent + zeros⟩

/-- The shortest decimal that reads back as `m * 2 ^ q`. -/
def shortest (m : Nat) (q : Int) (narrowBelow : Bool) : Decimal :=
  let i := RoundingInterval.ofBinary m q narrowBelow
  (i.search ((digitsOf i.value).length - 1)).trimZeros

end Decimal

end FlowchartLayout
