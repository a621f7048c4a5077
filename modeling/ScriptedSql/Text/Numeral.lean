/-!
Contract: whole numbers written in digits.

Owns:
- decimal numerals of naturals and integers, and the number that a run of
  digits denotes;
- hexadecimal numerals, in lower case.
-/

namespace ScriptedSql.Text

/-- The character of a digit up to fifteen, letters in lower case. -/
def digitCharacter (digit : Nat) : Char :=
  if digit < 10 then Char.ofNat (48 + digit) else Char.ofNat (87 + digit)

/-- The digits of a natural in a base of at least two, without leading
zeros. -/
def digitsIn (base : Nat) (atLeastTwo : 2 ≤ base) (number : Nat) : List Char :=
  if number < base then
    [digitCharacter number]
  else
    digitsIn base atLeastTwo (number / base) ++ [digitCharacter (number % base)]
termination_by number
decreasing_by exact Nat.div_lt_self (by omega) (by omega)

def decimalDigitsOf (number : Nat) : List Char :=
  digitsIn 10 (by decide) number

def hexDigitsOf (number : Nat) : List Char :=
  digitsIn 16 (by decide) number

def decimal (number : Nat) : String :=
  String.ofList (decimalDigitsOf number)

/-- An integer in decimal, with a minus sign below zero. -/
def signedDigitsOf (number : Int) : List Char :=
  if number < 0 then '-' :: decimalDigitsOf number.natAbs else decimalDigitsOf number.natAbs

def signed (number : Int) : String :=
  String.ofList (signedDigitsOf number)

/-- A natural in hexadecimal, filled with zeros on the left up to `width`
digits. -/
def hexPadded (width number : Nat) : List Char :=
  let digits := hexDigitsOf number
  List.replicate (width - digits.length) '0' ++ digits

def digitCount (number : Nat) : Nat :=
  if number < 10 then 1 else digitCount (number / 10) + 1
termination_by number

def digitValue? (character : Char) : Option Nat :=
  if '0' ≤ character ∧ character ≤ '9' then some (character.toNat - 48) else none

/-- The value of a hexadecimal digit, in either case. -/
def hexValue? (character : Char) : Option Nat :=
  if '0' ≤ character ∧ character ≤ '9' then some (character.toNat - 48)
  else if 'a' ≤ character ∧ character ≤ 'f' then some (character.toNat - 87)
  else if 'A' ≤ character ∧ character ≤ 'F' then some (character.toNat - 55)
  else none

/-- The digits that a text begins with, and what follows them. -/
def spanDigits : List Char → List Nat × List Char
  | [] => ([], [])
  | character :: rest =>
    match digitValue? character with
    | some digit => let (digits, after) := spanDigits rest; (digit :: digits, after)
    | none => ([], character :: rest)

/-- The number that a run of digits denotes. -/
def numberOf (base : Nat) (digits : List Nat) : Nat :=
  digits.foldl (fun number digit => number * base + digit) 0

end ScriptedSql.Text
