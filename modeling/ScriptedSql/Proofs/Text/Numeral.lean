import ScriptedSql.Text.Numeral

/-!
Contract: numerals that are written and read back.

Owns:
- single digits, and runs of them up to a character that is no digit;
- the bound of the number that a run of digits denotes;
- numerals, which are read back as the number that they were written for;
- the first digit of a numeral, which is a zero for zero only;
- numerals of a fixed width, filled with zeros on the left.
-/

namespace ScriptedSql.Text

/-! ## Digits -/

@[simp]
theorem hexValue?_digitCharacter {digit : Nat} (isDigit : digit < 16) :
    hexValue? (digitCharacter digit) = some digit := by
  have all : ∀ digit : Fin 16, hexValue? (digitCharacter digit) = some digit.val := by decide
  exact all ⟨digit, isDigit⟩

@[simp]
theorem digitValue?_digitCharacter {digit : Nat} (isDigit : digit < 10) :
    digitValue? (digitCharacter digit) = some digit := by
  have all : ∀ digit : Fin 10, digitValue? (digitCharacter digit) = some digit.val := by decide
  exact all ⟨digit, isDigit⟩

/-- A text does not begin with a digit. -/
def StopsDigits (text : List Char) : Prop :=
  ∀ character rest, text = character :: rest → digitValue? character = none

theorem stopsDigits_nil : StopsDigits [] :=
  nofun

theorem stopsDigits_cons {character : Char} (noDigit : digitValue? character = none)
    (rest : List Char) : StopsDigits (character :: rest) := by
  intro first others same
  rw [← (List.cons.inj same).1]
  exact noDigit

private theorem spanDigits_of_stops {rest : List Char} (stops : StopsDigits rest) :
    spanDigits rest = ([], rest) := by
  cases rest with
  | nil => rfl
  | cons character rest => rw [spanDigits, stops character rest rfl]

/-- A run of digits is read up to where it stops. -/
theorem spanDigits_append {digits : List Nat} (areDigits : ∀ digit ∈ digits, digit < 10)
    {rest : List Char} (stops : StopsDigits rest) :
    spanDigits (digits.map digitCharacter ++ rest) = (digits, rest) := by
  induction digits with
  | nil => exact spanDigits_of_stops stops
  | cons digit digits inductionHypothesis =>
      have isDigit := areDigits digit List.mem_cons_self
      have read := inductionHypothesis fun other isLater =>
        areDigits other (List.mem_cons_of_mem digit isLater)
      rw [List.map_cons, List.cons_append, spanDigits, digitValue?_digitCharacter isDigit]
      simp only [read]

theorem digitValue?_lt {character : Char} {digit : Nat}
    (found : digitValue? character = some digit) : digit < 10 := by
  unfold digitValue? at found
  by_cases isDigit : '0' ≤ character ∧ character ≤ '9'
  · rw [if_pos isDigit, Option.some.injEq] at found
    have upTo : character.toNat ≤ 57 := isDigit.2
    omega
  · rw [if_neg isDigit] at found
    contradiction

theorem spanDigits_areDigits (text : List Char) : ∀ digit ∈ (spanDigits text).1, digit < 10 := by
  induction text with
  | nil => exact nofun
  | cons character rest inductionHypothesis =>
      unfold spanDigits
      cases found : digitValue? character with
      | none => exact nofun
      | some digit => exact List.forall_mem_cons.mpr ⟨digitValue?_lt found, inductionHypothesis⟩

/-! ## Numerals -/

/-- Digits appended to a number do not lead up to the next one. -/
theorem foldl_digits_lt {digits : List Nat} (areDigits : ∀ digit ∈ digits, digit < 10)
    (number : Nat) :
    digits.foldl (fun number digit => number * 10 + digit) number <
      (number + 1) * Nat.pow 10 digits.length := by
  induction digits generalizing number with
  | nil =>
      show number < (number + 1) * 1
      omega
  | cons digit digits inductionHypothesis =>
      obtain ⟨isDigit, laterAre⟩ := List.forall_mem_cons.mp areDigits
      have power : Nat.pow 10 (digits.length + 1) = 10 * Nat.pow 10 digits.length :=
        Nat.mul_comm _ _
      calc digits.foldl (fun number digit => number * 10 + digit) (number * 10 + digit)
          < (number * 10 + digit + 1) * Nat.pow 10 digits.length := inductionHypothesis laterAre _
        _ ≤ ((number + 1) * 10) * Nat.pow 10 digits.length := Nat.mul_le_mul_right _ (by omega)
        _ = (number + 1) * Nat.pow 10 (digits.length + 1) := by rw [power, Nat.mul_assoc]

theorem numberOf_lt {digits : List Nat} (areDigits : ∀ digit ∈ digits, digit < 10) :
    numberOf 10 digits < Nat.pow 10 digits.length := by
  have below := foldl_digits_lt areDigits 0
  rw [Nat.zero_add, Nat.one_mul] at below
  exact below

@[simp]
theorem numberOf_concat (base : Nat) (digits : List Nat) (digit : Nat) :
    numberOf base (digits ++ [digit]) = numberOf base digits * base + digit := by
  rw [numberOf, List.foldl_append]
  rfl

/-- The digits that a numeral consists of: they denote its number, and it begins with a zero
only if that is all of it. -/
theorem digitsIn_eq {base : Nat} (atLeastTwo : 2 ≤ base) (number : Nat) :
    ∃ first rest, digitsIn base atLeastTwo number = (first :: rest).map digitCharacter ∧
      (∀ digit ∈ first :: rest, digit < base) ∧ numberOf base (first :: rest) = number ∧
      (first = 0 → rest = []) := by
  induction number using Nat.strongRecOn with
  | ind number inductionHypothesis =>
      rw [digitsIn]
      by_cases isDigit : number < base
      · rw [if_pos isDigit]
        refine ⟨number, [], rfl, ?_, ?_, fun _ => rfl⟩
        · exact List.forall_mem_singleton.mpr isDigit
        · simp [numberOf]
      · have smaller : number / base < number := Nat.div_lt_self (by omega) (by omega)
        obtain ⟨first, rest, written, areDigits, denotes, leading⟩ := inductionHypothesis _ smaller
        rw [if_neg isDigit]
        refine ⟨first, rest ++ [number % base], ?_, ?_, ?_, ?_⟩
        · rw [written, ← List.cons_append, List.map_append]
          rfl
        · rw [← List.cons_append]
          intro digit isThere
          rcases List.mem_append.mp isThere with isEarlier | isLast
          · exact areDigits digit isEarlier
          · rw [List.mem_singleton.mp isLast]
            exact Nat.mod_lt _ (by omega)
        · rw [← List.cons_append, numberOf_concat, denotes, Nat.mul_comm]
          exact Nat.div_add_mod number base
        · intro isZero
          -- A number of two digits or more does not vanish when the last one is cut off.
          have positive : 0 < number / base := Nat.div_pos (Nat.not_lt.mp isDigit) (by omega)
          rw [isZero, leading isZero] at denotes
          have vanishes : number / base = 0 := by simpa [numberOf] using denotes.symm
          omega

/-- A numeral is read back as the number that it was written for, up to where it stops. -/
theorem spanDigits_decimal (number : Nat) {rest : List Char} (stops : StopsDigits rest) :
    ∃ first others, spanDigits (decimalDigitsOf number ++ rest) = (first :: others, rest) ∧
      numberOf 10 (first :: others) = number ∧ (first = 0 → others = []) := by
  obtain ⟨first, others, written, areDigits, denotes, leading⟩ :=
    digitsIn_eq (by decide : 2 ≤ 10) number
  refine ⟨first, others, ?_, denotes, leading⟩
  rw [decimalDigitsOf, written, spanDigits_append areDigits stops]

/-- Different naturals are written differently. -/
theorem decimal_injective {first second : Nat} (same : decimal first = decimal second) :
    first = second := by
  have sameDigits : decimalDigitsOf first = decimalDigitsOf second :=
    String.ofList_injective same
  obtain ⟨_, _, readFirst, denotesFirst, -⟩ := spanDigits_decimal first stopsDigits_nil
  obtain ⟨_, _, readSecond, denotesSecond, -⟩ := spanDigits_decimal second stopsDigits_nil
  rw [sameDigits, readSecond] at readFirst
  have sameValues := congrArg Prod.fst readFirst
  rw [← denotesFirst, ← denotesSecond]
  exact congrArg (numberOf 10) sameValues.symm

/-! ## Numerals of a fixed width -/

def lastDigits : (count number : Nat) → List Nat
  | 0, _ => []
  | count + 1, number => lastDigits count (number / 10) ++ [number % 10]

/-- A natural in decimal with `width` digits. Those that do not fit are left out. -/
def decimalPadded (width number : Nat) : List Char :=
  (lastDigits width number).map digitCharacter

@[simp]
theorem lastDigits_length (count number : Nat) : (lastDigits count number).length = count := by
  induction count generalizing number with
  | zero => rfl
  | succ count inductionHypothesis =>
      rw [lastDigits, List.length_append, inductionHypothesis, List.length_singleton]

theorem lastDigits_areDigits (count number : Nat) :
    ∀ digit ∈ lastDigits count number, digit < 10 := by
  induction count generalizing number with
  | zero => exact nofun
  | succ count inductionHypothesis =>
      intro digit isThere
      rcases List.mem_append.mp isThere with isEarlier | isLast
      · exact inductionHypothesis (number / 10) digit isEarlier
      · rw [List.mem_singleton.mp isLast]
        exact Nat.mod_lt number (by decide)

/-- The last digits of a natural denote the remainder by a power of ten. -/
@[simp]
theorem numberOf_lastDigits (count number : Nat) :
    numberOf 10 (lastDigits count number) = number % Nat.pow 10 count := by
  induction count generalizing number with
  | zero => exact (Nat.mod_one number).symm
  | succ count inductionHypothesis =>
      have split : number % (10 * Nat.pow 10 count) =
          number % 10 + 10 * (number / 10 % Nat.pow 10 count) := Nat.mod_mul
      have power : Nat.pow 10 (count + 1) = 10 * Nat.pow 10 count := Nat.mul_comm _ _
      rw [lastDigits, numberOf_concat, inductionHypothesis, power, split]
      omega

end ScriptedSql.Text
