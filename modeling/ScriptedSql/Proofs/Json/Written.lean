import ScriptedSql.Json.Reader
import ScriptedSql.Proofs.Text.Numeral

/-!
Contract: written strings and numerals of JSON, read back.

Owns:
- strings, of which every character is read back from its escape;
- numerals: a written one is read to the number it was written for, up to where it ends.

Does not own: trees (`Json.Nesting`).
-/

namespace ScriptedSql.Json

/-! ## Strings -/

private theorem hexPadded_of_control {number : Nat} (isControl : number < 32) :
    Text.hexPadded 4 number =
      ['0', '0', Text.digitCharacter (number / 16), Text.digitCharacter (number % 16)] := by
  rw [Text.hexPadded, Text.hexDigitsOf, Text.digitsIn]
  by_cases isDigit : number < 16
  · have noSixteens : number / 16 = 0 := Nat.div_eq_of_lt isDigit
    rw [if_pos isDigit, noSixteens, Nat.mod_eq_of_lt isDigit]
    rfl
  · have fewSixteens : number / 16 < 16 := by omega
    rw [if_neg isDigit, Text.digitsIn, if_pos fewSixteens]
    rfl

private theorem codeUnit?_of_digits {high low : Nat} (highIsDigit : high < 16)
    (lowIsDigit : low < 16) :
    codeUnit? '0' '0' (Text.digitCharacter high) (Text.digitCharacter low) =
      some (high * 16 + low) := by
  have zero : Text.hexValue? '0' = some 0 := by decide
  have readHigh := Text.hexValue?_digitCharacter highIsDigit
  have readLow := Text.hexValue?_digitCharacter lowIsDigit
  simp [codeUnit?, zero, readHigh, readLow, Text.numberOf]

private theorem readString?_control {character : Char} (isControl : character < ' ')
    (rest : List Char) :
    readString? ('\\' :: 'u' :: Text.hexPadded 4 character.toNat ++ rest) =
      (readString? rest).map fun (text, left) => (character :: text, left) := by
  have few : character.toNat < 32 := isControl
  have unit := codeUnit?_of_digits (by omega : character.toNat / 16 < 16)
    (Nat.mod_lt character.toNat (by omega : 0 < 16))
  rw [Nat.div_add_mod'] at unit
  rw [hexPadded_of_control few]
  show readString? ('\\' :: 'u' :: '0' :: '0' :: _ :: _ :: rest) = _
  rw [readString?, unit]
  have noClosing : closesPair character.toNat = false := by simp [closesPair]; omega
  have noOpening : opensPair character.toNat = false := by simp [opensPair]; omega
  simp only [noClosing, noOpening, Char.ofNat_toNat]
  rfl

private theorem readString?_letter {letter character : Char} (notU : letter ≠ 'u')
    (stands : letterEscape? letter = some character) (rest : List Char) :
    readString? ('\\' :: letter :: rest) =
      (readString? rest).map fun (text, left) => (character :: text, left) := by
  rw [readString?]
  · simp only [stands]
  · exact fun _ _ _ _ _ isU => absurd isU notU

private theorem readString?_plain {character : Char} (notQuote : character ≠ '"')
    (notBackslash : character ≠ '\\') (notControl : ¬ character < ' ') (rest : List Char) :
    readString? (character :: rest) =
      (readString? rest).map fun (text, left) => (character :: text, left) := by
  rw [readString?]
  · exact if_neg (not_or.mpr ⟨notControl, notBackslash⟩)
  · exact fun same => absurd same notQuote
  · exact fun _ _ _ _ _ same => absurd same notBackslash
  · exact fun _ _ same => absurd same notBackslash

/-- A character is read back from its escape. -/
theorem readString?_escaped (character : Char) (rest : List Char) :
    readString? (escapedCharacter character ++ rest) =
      (readString? rest).map fun (text, left) => (character :: text, left) := by
  have letter (letter : Char) (notU : letter ≠ 'u')
      (stands : letterEscape? letter = some character) :=
    readString?_letter notU stands rest
  unfold escapedCharacter
  split
  · next isQuote => exact letter '"' (by decide) (by rw [isQuote]; rfl)
  next notQuote =>
  split
  · next isBackslash => exact letter '\\' (by decide) (by rw [isBackslash]; rfl)
  next notBackslash =>
  split
  · next isBackspace => exact letter 'b' (by decide) (by rw [isBackspace]; rfl)
  split
  · next isFormFeed => exact letter 'f' (by decide) (by rw [isFormFeed]; rfl)
  split
  · next isLineFeed => exact letter 'n' (by decide) (by rw [isLineFeed]; rfl)
  split
  · next isReturn => exact letter 'r' (by decide) (by rw [isReturn]; rfl)
  split
  · next isTab => exact letter 't' (by decide) (by rw [isTab]; rfl)
  split
  · next isControl => exact readString?_control isControl rest
  · next notControl => exact readString?_plain notQuote notBackslash notControl rest

/-- A string is read back from its written form. -/
theorem readString?_written (characters rest : List Char) :
    readString? (characters.flatMap escapedCharacter ++ '"' :: rest) = some (characters, rest) := by
  induction characters with
  | nil => rfl
  | cons character characters inductionHypothesis =>
      rw [List.flatMap_cons, List.append_assoc, readString?_escaped, inductionHypothesis]
      rfl

/-! ## Numerals -/

namespace Numeral

def HasDigits (numeral : Numeral) : Prop :=
  ∀ place ∈ numeral.places, place < 10

/-- A text does not go on with what a numeral could go on with. -/
structure Stops (text : List Char) : Prop where
  digits : Text.StopsDigits text
  point : ∀ rest, text ≠ '.' :: rest
  power : ∀ mark rest, text = mark :: rest → mark ≠ 'e' ∧ mark ≠ 'E'

private theorem readWhole?_written (whole : Nat) {rest : List Char}
    (stops : Text.StopsDigits rest) :
    readWhole? (Text.decimalDigitsOf whole ++ rest) = some (whole, rest) := by
  obtain ⟨first, others, read, denotes, leading⟩ := Text.spanDigits_decimal whole stops
  unfold readWhole?
  rw [read]
  cases first with
  | zero =>
      rw [leading rfl] at denotes ⊢
      rw [← denotes]
      rfl
  | succ first => exact congrArg (fun number => some (number, rest)) denotes

private theorem readPlaces?_written {places : List Nat} (areDigits : ∀ place ∈ places, place < 10)
    {rest : List Char} (stops : Text.StopsDigits rest) (noPoint : ∀ after, rest ≠ '.' :: after) :
    readPlaces? (writtenPlaces places ++ rest) = some (places, rest) := by
  unfold writtenPlaces
  cases places with
  | nil =>
      show readPlaces? rest = _
      rw [readPlaces?]
      exact noPoint
  | cons place others =>
      have read := Text.spanDigits_append areDigits stops
      show readPlaces? ('.' :: ((place :: others).map Text.digitCharacter ++ rest)) = _
      rw [readPlaces?, read]

private theorem readPower?_written (negative : Bool) (magnitude : Nat) {rest : List Char}
    (stops : Text.StopsDigits rest) :
    readPower? negative (Text.decimalDigitsOf magnitude ++ rest) =
      some (if negative then -(magnitude : Int) else magnitude, rest) := by
  obtain ⟨first, others, read, denotes, -⟩ := Text.spanDigits_decimal magnitude stops
  rw [readPower?, read, ← denotes]

private theorem readExponent?_written (exponent : Option Int) {rest : List Char}
    (stops : Stops rest) :
    readExponent? (writtenExponent exponent ++ rest) = some (exponent, rest) := by
  cases exponent with
  | none =>
      show readExponent? rest = _
      cases rest with
      | nil => rfl
      | cons mark rest =>
          exact if_neg (not_or.mpr (stops.power mark rest rfl))
  | some exponent =>
      by_cases isNegative : exponent < 0
      · have read := readPower?_written true exponent.natAbs stops.digits
        have value : -(exponent.natAbs : Int) = exponent := by omega
        rw [writtenExponent, if_pos isNegative]
        show (readPower? true (Text.decimalDigitsOf exponent.natAbs ++ rest)).map _ = _
        rw [read, if_pos rfl, value]
        rfl
      · have read := readPower?_written false exponent.natAbs stops.digits
        have value : (exponent.natAbs : Int) = exponent := by omega
        rw [writtenExponent, if_neg isNegative]
        show (readPower? false (Text.decimalDigitsOf exponent.natAbs ++ rest)).map _ = _
        rw [read, if_neg Bool.false_ne_true, value]
        rfl

private theorem stopsDigits_exponent (exponent : Option Int) {rest : List Char}
    (stops : Stops rest) :
    Text.StopsDigits (writtenExponent exponent ++ rest) := by
  cases exponent with
  | none => exact stops.digits
  | some exponent => exact Text.stopsDigits_cons (by decide) _

private theorem noPoint_exponent (exponent : Option Int) {rest : List Char} (stops : Stops rest)
    (after : List Char) : writtenExponent exponent ++ rest ≠ '.' :: after := by
  cases exponent with
  | none => exact stops.point after
  | some exponent => exact fun same => absurd (List.cons.inj same).1 (by decide)

private theorem stopsDigits_places (places : List Nat) {rest : List Char}
    (stops : Text.StopsDigits rest) : Text.StopsDigits (writtenPlaces places ++ rest) := by
  cases places with
  | nil => exact stops
  | cons place others => exact Text.stopsDigits_cons (by decide) _

private theorem readMagnitude?_written {numeral : Numeral} (hasDigits : numeral.HasDigits)
    {rest : List Char} (stops : Stops rest) :
    readMagnitude? numeral.negative (Text.decimalDigitsOf numeral.whole ++
      (writtenPlaces numeral.places ++ (writtenExponent numeral.exponent ++ rest))) =
        some (numeral, rest) := by
  have stopsExponent := stopsDigits_exponent numeral.exponent stops
  have noPoint := noPoint_exponent numeral.exponent stops
  have whole := readWhole?_written numeral.whole (stopsDigits_places numeral.places stopsExponent)
  have places := readPlaces?_written hasDigits stopsExponent noPoint
  have exponent := readExponent?_written numeral.exponent stops
  simp [readMagnitude?, whole, places, exponent]

/-- A numeral begins with a minus sign or a digit. -/
theorem written_begins (numeral : Numeral) :
    ∃ first rest, numeral.written = first :: rest ∧
      (numeral.negative = true ∧ first = '-' ∨
        numeral.negative = false ∧ ∃ digit < 10, first = Text.digitCharacter digit) := by
  obtain ⟨digit, digits, digitsWritten, areDigits, -⟩ :=
    Text.digitsIn_eq (by decide : 2 ≤ 10) numeral.whole
  have whole : Text.decimalDigitsOf numeral.whole =
      Text.digitCharacter digit :: digits.map Text.digitCharacter := digitsWritten
  unfold written
  cases numeral.negative with
  | true => exact ⟨'-', _, rfl, .inl ⟨rfl, rfl⟩⟩
  | false =>
      have isDigit := areDigits digit List.mem_cons_self
      rw [whole]
      exact ⟨Text.digitCharacter digit, _, rfl, .inr ⟨rfl, digit, isDigit, rfl⟩⟩

private theorem digitCharacter_ne_minus {digit : Nat} (isDigit : digit < 10) :
    Text.digitCharacter digit ≠ '-' := by
  have all : ∀ digit : Fin 10, Text.digitCharacter digit ≠ '-' := by decide
  exact all ⟨digit, isDigit⟩

/-- A numeral is read back from its written form. -/
theorem read?_written {numeral : Numeral} (hasDigits : numeral.HasDigits) {rest : List Char}
    (stops : Stops rest) : read? (numeral.written ++ rest) = some (numeral, rest) := by
  have magnitude := readMagnitude?_written hasDigits stops
  obtain ⟨first, others, begins, sign⟩ := numeral.written_begins
  rcases sign with ⟨negative, isMinus⟩ | ⟨positive, digit, isDigit, isFirst⟩
  · rw [negative] at magnitude
    rw [written, negative, List.append_assoc, List.append_assoc, List.append_assoc]
    exact magnitude
  · rw [positive] at magnitude
    have noMinus : ∀ after, numeral.written ++ rest ≠ '-' :: after := by
      intro after same
      rw [begins] at same
      exact digitCharacter_ne_minus isDigit (isFirst ▸ (List.cons.inj same).1)
    rw [read?]
    · rw [written, positive, List.append_assoc, List.append_assoc, List.append_assoc]
      exact magnitude
    · exact noMinus

end Numeral

end ScriptedSql.Json
