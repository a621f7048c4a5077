import ScriptedSql.Floating

/-!
Contract: rounding of exact rationals to a binary format.

Owns:
- the single and double formats;
- rounding to the nearest number of a format, a tie going to the one with an
  even significand, with overflow to infinity and gradual underflow;
- the double nearest an integer, and the single nearest a double.
-/

namespace ScriptedSql

/-- A binary floating-point format: significands of `precision` bits whose last
bit stands for at least `2 ^ leastExponent`; magnitudes of `2 ^ limit` and more
are out of range. -/
structure Format where
  precision : Nat
  leastExponent : Int
  limit : Int
deriving DecidableEq, Repr

def Finite.quotient (number : Finite) : Nat × Nat :=
  match number.value with
  | .zero => (0, 1)
  | .ofOdd significand places _ =>
    (significand.natAbs * Nat.pow 2 (-places).toNat, Nat.pow 2 places.toNat)

namespace Format

def single : Format := ⟨24, -149, 128⟩

def double : Format := ⟨53, -1074, 1024⟩

def scaled (numerator denominator : Nat) (exponent : Int) : Nat × Nat :=
  (numerator * Nat.pow 2 exponent.toNat, denominator * Nat.pow 2 (-exponent).toNat)

/-- The exponent of the power of two at or below a positive quotient. -/
def leadingExponent (numerator denominator : Nat) : Int :=
  let guess : Int := numerator.log2 - denominator.log2
  let (above, below) := scaled numerator denominator (-guess)
  if below ≤ above then guess else guess - 1

/-- The exponent of the last bit that the format keeps of a positive
quotient. -/
def lastExponent (format : Format) (numerator denominator : Nat) : Int :=
  max (leadingExponent numerator denominator - (format.precision - 1)) format.leastExponent

/-- A quotient rounded to a natural, a tie going to the even one. -/
def nearestNatural (numerator denominator : Nat) : Nat :=
  let whole := numerator / denominator
  let twice := 2 * (numerator % denominator)
  if twice < denominator then whole
  else if denominator < twice then whole + 1
  else whole + whole % 2

/-- The magnitude of the format nearest a quotient; none when it is out of
range. -/
def magnitude? (format : Format) (numerator denominator : Nat) : Option Dyadic :=
  if numerator = 0 then
    some 0
  else
    let last := format.lastExponent numerator denominator
    let (above, below) := scaled numerator denominator (-last)
    let significand := nearestNatural above below
    if significand ≠ 0 ∧ format.limit ≤ significand.log2 + last then none
    else some (Dyadic.ofIntWithPrec significand (-last))

def signed (negative : Bool) (magnitude : Dyadic) : Finite :=
  if negative then (Finite.exact magnitude).negate else .exact magnitude

def round (format : Format) (negative : Bool) (numerator denominator : Nat) : Floating :=
  match format.magnitude? numerator denominator with
  | some magnitude => .finite (signed negative magnitude)
  | none => .infinite negative

def ofInt (format : Format) (number : Int) : Floating :=
  format.round (decide (number < 0)) number.natAbs 1

def narrow (format : Format) : Floating → Floating
  | .finite number =>
    let (numerator, denominator) := number.quotient
    format.round number.isNegative numerator denominator
  | other => other

end Format

end ScriptedSql
