/-!
Contract: binary floating-point numbers as exact values.

Owns:
- the numbers themselves: dyadic rationals, the negative zero, the infinities
  and the one not-a-number;
- their equality as numbers.

Does not own: the range and precision of a format, which rounding brings in
(`Floating.Rounding`), and the written forms.
-/

namespace ScriptedSql

/-- A finite floating-point number. Zero has a sign of its own; every other
number is the dyadic rational that it denotes. -/
inductive Finite where
  | negativeZero
  | exact (value : Dyadic)
deriving DecidableEq

/-- A floating-point number of any format. Widening to a larger format changes
nothing here, since the value stays the same. -/
inductive Floating where
  | nan
  | infinite (negative : Bool)
  | finite (number : Finite)
deriving DecidableEq

namespace Finite

def value : Finite → Dyadic
  | .negativeZero => 0
  | .exact value => value

/-- Whether the number is written with a minus sign. -/
def isNegative : Finite → Bool
  | .negativeZero => true
  | .exact value => decide (value < 0)

/-- Equality as numbers: the two zeros are equal. -/
def sameNumber (left right : Finite) : Bool :=
  decide (left.value = right.value)

def negate : Finite → Finite
  | .negativeZero => .exact 0
  | .exact value => if value = 0 then .negativeZero else .exact (-value)

end Finite

namespace Floating

/-- Equality as floating-point arithmetic has it: nothing equals
not-a-number, and the two zeros are equal. -/
def sameNumber : Floating → Floating → Bool
  | .infinite left, .infinite right => left == right
  | .finite left, .finite right => left.sameNumber right
  | _, _ => false

end Floating

end ScriptedSql
