import ScriptedSql.Floating.Shortest

/-!
Contract: floating-point numbers written in decimal without an exponent, and
read back from decimal numerals.

Owns:
- the split of a decimal into its whole part and the places after the point;
- the written form: the fewest digits that read back, never an exponent, no
  point after a whole number, and words for the values that are not finite;
- the reading of numerals with a sign, a point and an exponent, and of the words.
-/

namespace ScriptedSql

namespace Decimal

/-- The digits of a natural, filled with zeros on the left up to `width`. -/
def paddedDigits (width number : Nat) : List Char :=
  let digits := Text.decimalDigitsOf number
  List.replicate (width - digits.length) '0' ++ digits

/-- The whole part of a decimal and the digits after the point, which are none
for a whole number. -/
def split (decimal : Decimal) : Nat × List Char :=
  let places := (-decimal.exponent).toNat
  if places = 0 then
    (decimal.digits * Nat.pow 10 decimal.exponent.toNat, [])
  else
    (decimal.digits / Nat.pow 10 places,
      paddedDigits places (decimal.digits % Nat.pow 10 places))

end Decimal

namespace Finite

/-- The shortest decimal that reads back as the magnitude of a number of the
format; zero is the decimal zero. -/
def shortest (format : Format) (tie : Tie) (number : Finite) : Decimal :=
  let (numerator, denominator) := number.quotient
  if numerator = 0 then ⟨0, 0⟩ else Decimal.shortest format tie numerator denominator

/-- The number in decimal places. A tie between two shortest decimals goes
up. -/
def written (format : Format) (number : Finite) : List Char :=
  let (whole, places) := (number.shortest format .up).split
  let magnitude := Text.decimalDigitsOf whole ++ if places.isEmpty then [] else '.' :: places
  if number.isNegative then '-' :: magnitude else magnitude

end Finite

namespace Floating

def written (format : Format) : Floating → String
  | .nan => "NaN"
  | .infinite false => "inf"
  | .infinite true => "-inf"
  | .finite number => String.ofList (number.written format)

end Floating

namespace Format

/-- The number of the format nearest `digits * 10 ^ exponent`. Magnitudes far
outside every format are decided by their number of digits. -/
def ofDecimal (format : Format) (negative : Bool) (decimal : Decimal) : Floating :=
  let reach := Text.digitCount decimal.digits + decimal.exponent
  if decimal.digits = 0 ∨ reach < -400 then .finite (signed negative 0)
  else if 400 < reach then .infinite negative
  else
    format.round negative (decimal.digits * Nat.pow 10 decimal.exponent.toNat)
      (Nat.pow 10 (-decimal.exponent).toNat)

/-- The exponent part of a numeral: none, or the letter, a sign if wanted, and at
least one digit, up to the end of the text. -/
def readExponent? : List Char → Option Int
  | [] => some 0
  | mark :: rest =>
    if mark = 'e' ∨ mark = 'E' then
      let (negative, unsigned) : Bool × List Char :=
        match rest with
        | '-' :: after => (true, after)
        | '+' :: after => (false, after)
        | after => (false, after)
      match Text.spanDigits unsigned with
      | ([], _) => none
      | (digits, []) =>
        let magnitude : Int := Text.numberOf 10 digits
        some (if negative then -magnitude else magnitude)
      | _ => none
    else
      none

/-- A numeral without its sign: digits with at most one point among them, at
least one digit in all, and an exponent. -/
def readMagnitude? (text : List Char) : Option Decimal :=
  let (whole, afterWhole) := Text.spanDigits text
  let (places, afterPlaces) : List Nat × List Char :=
    match afterWhole with
    | '.' :: rest => Text.spanDigits rest
    | rest => ([], rest)
  if whole.isEmpty && places.isEmpty then
    none
  else
    (readExponent? afterPlaces).map fun exponent =>
      ⟨Text.numberOf 10 (whole ++ places), exponent - places.length⟩

/-- The number of the format nearest a numeral; also the words for infinity and
not-a-number in any case. -/
def read? (format : Format) (text : String) : Option Floating :=
  let (negative, unsigned) : Bool × List Char :=
    match text.toList with
    | '-' :: rest => (true, rest)
    | '+' :: rest => (false, rest)
    | rest => (false, rest)
  let word := unsigned.map Char.toLower
  if word = "inf".toList ∨ word = "infinity".toList then some (.infinite negative)
  else if word = "nan".toList then some .nan
  else (readMagnitude? unsigned).map (format.ofDecimal negative)

end Format

end ScriptedSql
