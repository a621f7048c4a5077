import ScriptedSql.Floating.Written

/-!
Contract: JSON numerals and the numbers that they stand for.

Owns:
- the parts of a numeral, its written form and its reader;
- the numeral of an integer and the shortest numeral of a finite float;
- the number of a numeral: an integer of 64 bits where it has no point, no
  exponent and fits, a double otherwise.
-/

namespace ScriptedSql.Json

/-- A numeral: a sign, the whole part, the digits after the point and the power
of ten after the letter `e`. -/
structure Numeral where
  negative : Bool
  whole : Nat
  places : List Nat
  exponent : Option Int
deriving DecidableEq, Repr

namespace Numeral

def writtenExponent : Option Int → List Char
  | none => []
  | some exponent =>
    'e' :: (if exponent < 0 then '-' else '+') :: Text.decimalDigitsOf exponent.natAbs

def writtenPlaces (places : List Nat) : List Char :=
  if places.isEmpty then [] else '.' :: places.map Text.digitCharacter

def written (numeral : Numeral) : List Char :=
  (if numeral.negative then ['-'] else []) ++ Text.decimalDigitsOf numeral.whole ++
    writtenPlaces numeral.places ++ writtenExponent numeral.exponent

/-- The whole part of a numeral: a zero, or digits that do not begin with
one. -/
def readWhole? (text : List Char) : Option (Nat × List Char) :=
  match Text.spanDigits text with
  | ([], _) => none
  | ([0], rest) => some (0, rest)
  | (0 :: _, _) => none
  | (digits, rest) => some (Text.numberOf 10 digits, rest)

/-- The places after the point: none without a point, at least one with it. -/
def readPlaces? : List Char → Option (List Nat × List Char)
  | '.' :: rest =>
    match Text.spanDigits rest with
    | ([], _) => none
    | (places, after) => some (places, after)
  | rest => some ([], rest)

def readPower? (negative : Bool) (text : List Char) : Option (Int × List Char) :=
  match Text.spanDigits text with
  | ([], _) => none
  | (digits, rest) =>
    let magnitude : Int := Text.numberOf 10 digits
    some (if negative then -magnitude else magnitude, rest)

/-- The exponent part: none without the letter; with it a sign if wanted and at
least one digit. -/
def readExponent? : List Char → Option (Option Int × List Char)
  | mark :: rest =>
    if mark = 'e' ∨ mark = 'E' then
      (match rest with
        | '-' :: after => readPower? true after
        | '+' :: after => readPower? false after
        | after => readPower? false after).map fun (power, after) => (some power, after)
    else
      some (none, mark :: rest)
  | [] => some (none, [])

def readMagnitude? (negative : Bool) (text : List Char) : Option (Numeral × List Char) := do
  let (whole, afterWhole) ← readWhole? text
  let (places, afterPlaces) ← readPlaces? afterWhole
  let (exponent, rest) ← readExponent? afterPlaces
  return (⟨negative, whole, places, exponent⟩, rest)

/-- The numeral that a text begins with, and what follows it. -/
def read? : List Char → Option (Numeral × List Char)
  | '-' :: rest => readMagnitude? true rest
  | text => readMagnitude? false text

def ofInt (number : Int) : Numeral :=
  ⟨decide (number < 0), number.natAbs, [], none⟩

/-- The exponents between which a number of the format is written without the
letter `e`. -/
def plainRange (format : Format) : Int × Int :=
  if format = Format.single then (-6, 12) else (-5, 15)

/-- The numeral of a finite float: the fewest digits that read back, of two as
near the even one. Whole numbers get one place after the point; very large and
very small ones one digit before it and an exponent. -/
def ofFinite (format : Format) (number : Finite) : Numeral :=
  let decimal := number.shortest format .even
  let length := Text.digitCount decimal.digits
  let leading : Int := length - 1 + decimal.exponent
  let (least, greatest) := plainRange format
  let values (characters : List Char) : List Nat := (Text.spanDigits characters).1
  if decimal.digits = 0 ∨ (least ≤ leading ∧ leading ≤ greatest) then
    let (whole, places) := decimal.split
    ⟨number.isNegative, whole, if places.isEmpty then [0] else values places, none⟩
  else
    let digits := values (Text.decimalDigitsOf decimal.digits)
    ⟨number.isNegative, digits.headD 0, digits.tail, some leading⟩

/-- Digits taken into a significand of 64 bits as long as it has room for the
next one, with the count of those taken. -/
def absorb (significand : Nat) : List Nat → Nat × Nat
  | [] => (significand, 0)
  | digit :: rest =>
    if significand * 10 + digit < 18446744073709551616 then
      let (final, taken) := absorb (significand * 10 + digit) rest
      (final, taken + 1)
    else
      (significand, 0)

def powerOfTen? (power : Nat) : Option Dyadic :=
  Format.double.magnitude? (Nat.pow 10 power) 1

/-- A magnitude times a power of ten in double arithmetic: one multiplication or
division by a power up to the 308th, after as many divisions by that one as it
takes. Out of range is refused, while what is too small becomes zero. -/
def scale? (magnitude : Dyadic) (exponent : Int) : Option Dyadic :=
  let (numerator, denominator) := (Finite.exact magnitude).quotient
  if magnitude = 0 then some 0
  else if 0 ≤ exponent then
    if exponent ≤ 308 then do
      let power ← powerOfTen? exponent.toNat
      let (above, below) := (Finite.exact power).quotient
      Format.double.magnitude? (numerator * above) (denominator * below)
    else none
  else if -308 ≤ exponent then do
    let power ← powerOfTen? (-exponent).toNat
    let (above, below) := (Finite.exact power).quotient
    Format.double.magnitude? (numerator * below) (denominator * above)
  else do
    let power ← powerOfTen? 308
    let (above, below) := (Finite.exact power).quotient
    let quotient ← Format.double.magnitude? (numerator * below) (denominator * above)
    scale? quotient (exponent + 308)
termination_by exponent.natAbs
decreasing_by omega

/-- The double that a numeral stands for: its first digits, as many as 64 bits
hold, scaled by the power of ten that the rest of the numeral calls for. -/
def toDouble? (numeral : Numeral) : Option Finite := do
  let whole := (Text.spanDigits (Text.decimalDigitsOf numeral.whole)).1
  let (significandOfWhole, taken) := absorb 0 whole
  let (significand, placesTaken) := absorb significandOfWhole numeral.places
  let exponent : Int :=
    (whole.length - taken : Nat) - (placesTaken : Int) + numeral.exponent.getD 0
  let rounded ← Format.double.magnitude? significand 1
  let magnitude ← scale? rounded exponent
  return Format.signed numeral.negative magnitude

end Numeral

end ScriptedSql.Json
