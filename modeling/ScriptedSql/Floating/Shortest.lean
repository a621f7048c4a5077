import ScriptedSql.Floating.Rounding
import ScriptedSql.Text.Numeral

/-!
Contract: the shortest decimal that stands for a binary number.

Owns:
- the interval of reals that round to a number of a format;
- the decimal with the fewest digits in that interval, and of those the one
  nearest the number.

Does not own: how digits and exponent are laid out.
-/

namespace ScriptedSql

/-- A decimal: `digits * 10 ^ exponent`. -/
structure Decimal where
  digits : Nat
  exponent : Int
deriving DecidableEq, Repr

inductive Tie where
  | up
  | even
deriving DecidableEq, Repr

namespace Decimal

def trimmed (decimal : Decimal) : Decimal :=
  if decimal.digits ≠ 0 ∧ decimal.digits % 10 = 0 then
    trimmed ⟨decimal.digits / 10, decimal.exponent + 1⟩
  else
    decimal
termination_by decimal.digits
decreasing_by omega

end Decimal

/-- The reals that round to one positive number, on a common scale: `low`,
`middle` and `high` count units of `unit.1 / unit.2`, and `closed` tells whether
the ends belong to the interval. -/
structure RoundingInterval where
  low : Nat
  middle : Nat
  high : Nat
  closed : Bool
  unit : Nat × Nat
deriving Repr

namespace RoundingInterval

/-- The interval of a positive quotient that the format holds. The unit is a
quarter of the last bit. The gap below a power of two is half as wide as the one
above, unless the numbers below are as far apart. The ends round to an even
significand. -/
def ofQuotient (format : Format) (numerator denominator : Nat) : RoundingInterval :=
  let last := format.lastExponent numerator denominator
  let (above, below) := Format.scaled numerator denominator (-last)
  let significand := above / below
  let narrowBelow := significand == Nat.pow 2 (format.precision - 1) && format.leastExponent < last
  { low := 4 * significand - (if narrowBelow then 1 else 2)
    middle := 4 * significand
    high := 4 * significand + 2
    closed := significand % 2 == 0
    unit := Format.scaled 1 1 (last - 2) }

/-- The point of the grid `10 ^ exponent` in the interval that is nearest the
number, if the grid has a point in it. -/
def gridPoint? (interval : RoundingInterval) (tie : Tie) (exponent : Int) : Option Decimal :=
  let step := interval.unit.2 * Nat.pow 10 exponent.toNat
  let unit := interval.unit.1 * Nat.pow 10 (-exponent).toNat
  let middle := interval.middle * unit
  let below := middle / step
  let fitsBelow :=
    if interval.closed then interval.low * unit ≤ below * step
    else interval.low * unit < below * step
  let fitsAbove :=
    if interval.closed then (below + 1) * step ≤ interval.high * unit
    else (below + 1) * step < interval.high * unit
  let toBelow := middle - below * step
  let toAbove := (below + 1) * step - middle
  let preferBelow :=
    toBelow < toAbove || (toBelow == toAbove && tie == .even && below % 2 == 0)
  if fitsBelow && (!fitsAbove || preferBelow) then some ⟨below, exponent⟩
  else if fitsAbove then some ⟨below + 1, exponent⟩
  else none

end RoundingInterval

namespace Decimal

/-- The exponent of the power of ten at or below a positive quotient. -/
def leadingExponent (numerator denominator : Nat) : Int :=
  if denominator ≤ numerator then
    (Text.digitCount (numerator / denominator) : Int) - 1
  else
    -(Text.digitCount ((denominator + numerator - 1) / numerator - 1) : Int)

/-- The decimal with the fewest digits that rounds to a positive quotient of the
format, the nearest of those. Seventeen digits always suffice for a double. -/
def shortest (format : Format) (tie : Tie) (numerator denominator : Nat) : Decimal :=
  let interval := RoundingInterval.ofQuotient format numerator denominator
  let leading := leadingExponent numerator denominator
  let found := (List.range 17).findSome? fun (places : Nat) =>
    interval.gridPoint? tie (leading - places)
  (found.getD ⟨0, 0⟩).trimmed

end Decimal

end ScriptedSql
