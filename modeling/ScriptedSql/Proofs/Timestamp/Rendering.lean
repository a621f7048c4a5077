import ScriptedSql.Proofs.Date.Calendar
import ScriptedSql.Proofs.Text.Numeral
import ScriptedSql.Timestamp

/-!
Contract: time stamps that are written and read back.

Owns:
- how an offset from UTC is written: as `Z`, or with a sign, hours and minutes;
- local times in the format of RFC 3339 with six digits for the fraction of a second;
- the agreement: a local time that was written is read back as it was, in range and no leap
  second.

Does not own: which instant a local time stands for (`Timestamp.Instant`).
-/

namespace ScriptedSql

namespace Timestamp

/-- How far a place is ahead of UTC or behind it, as a text tells. -/
inductive Zone where
  | utc
  | ahead (hours : Fin 24) (minutes : Fin 60)
  | behind (hours : Fin 24) (minutes : Fin 60)

namespace Zone

def offset : Zone → Int
  | .utc => 0
  | .ahead hours minutes => (hours.val * 60 + minutes.val : Nat)
  | .behind hours minutes => -(hours.val * 60 + minutes.val : Nat)

def writtenParts (hours minutes : Nat) : List Char :=
  Text.decimalPadded 2 hours ++ ':' :: Text.decimalPadded 2 minutes

def written : Zone → List Char
  | .utc => ['Z']
  | .ahead hours minutes => '+' :: writtenParts hours minutes
  | .behind hours minutes => '-' :: writtenParts hours minutes

/-- Every offset of less than a day can be told. -/
theorem exists_of_offset {offset : Int} (range : -1440 < offset ∧ offset < 1440) :
    ∃ zone : Zone, zone.offset = offset := by
  have hours : offset.natAbs / 60 < 24 := by omega
  have minutes : offset.natAbs % 60 < 60 := Nat.mod_lt _ (by decide)
  by_cases isBehind : offset < 0
  · refine ⟨.behind ⟨_, hours⟩ ⟨_, minutes⟩, ?_⟩
    simp only [Zone.offset]
    omega
  · refine ⟨.ahead ⟨_, hours⟩ ⟨_, minutes⟩, ?_⟩
    simp only [Zone.offset]
    omega

theorem offset_range (zone : Zone) : -1440 < zone.offset ∧ zone.offset < 1440 := by
  cases zone with
  | utc => decide
  | ahead hours minutes =>
      have := hours.isLt
      have := minutes.isLt
      simp only [offset]
      omega
  | behind hours minutes =>
      have := hours.isLt
      have := minutes.isLt
      simp only [offset]
      omega

private theorem written_stopsDigits (zone : Zone) : Text.StopsDigits zone.written := by
  cases zone with
  | utc => exact Text.stopsDigits_cons rfl _
  | ahead hours minutes => exact Text.stopsDigits_cons rfl _
  | behind hours minutes => exact Text.stopsDigits_cons rfl _

end Zone

namespace LocalTime

/-- A local time as texts of the format of RFC 3339 show it. -/
def written (time : LocalTime) (zone : Zone) : List Char :=
  Text.decimalPadded 4 time.date.year.toNat ++ '-' ::
    (Text.decimalPadded 2 time.date.month ++ '-' ::
      (Text.decimalPadded 2 time.date.day ++ 'T' ::
        (Text.decimalPadded 2 time.hour ++ ':' ::
          (Text.decimalPadded 2 time.minute ++ ':' ::
            (Text.decimalPadded 2 time.second ++ '.' ::
              (Text.decimalPadded 6 (time.nanosecond / 1000) ++ zone.written))))))

/-- A local time that the format can show to the microsecond: it exists, its year has at most
four digits, and it is no leap second. -/
structure Showable (time : LocalTime) : Prop where
  year : 0 ≤ time.date.year ∧ time.date.year ≤ 9999
  date : time.date.Exists
  hour : time.hour ≤ 23
  minute : time.minute ≤ 59
  second : time.second ≤ 59
  fraction : ∃ microsecond ≤ 999999, time.nanosecond = microsecond * 1000

theorem Showable.outOfRange? {time : LocalTime} (showable : time.Showable) :
    time.outOfRange? = none := by
  obtain ⟨-, ⟨months, days⟩, hours, minutes, seconds, -⟩ := showable
  unfold LocalTime.outOfRange?
  rw [if_neg (by omega), if_neg (by omega), if_neg (by omega), if_neg (by omega),
    if_neg (by omega), if_neg (by omega)]

theorem Showable.withoutLeapSecond {time : LocalTime} (showable : time.Showable) :
    time.withoutLeapSecond = time := by
  have seconds := showable.second
  rw [LocalTime.withoutLeapSecond, if_neg (by omega)]

end LocalTime

/-! ## Reading back -/

@[simp]
private theorem readMark_cons (mark : Char) (rest : List Char) :
    readMark mark (mark :: rest) = .ok rest :=
  if_pos rfl

@[simp]
private theorem readSeparator_cons (rest : List Char) : readSeparator ('T' :: rest) = .ok rest :=
  rfl

private theorem takeNumber?_digits {digits : List Nat} (areDigits : ∀ digit ∈ digits, digit < 10)
    (number : Nat) (rest : List Char) :
    takeNumber? number digits.length (digits.map Text.digitCharacter ++ rest) =
      some (digits.foldl (fun number digit => number * 10 + digit) number, rest) := by
  induction digits generalizing number with
  | nil => rfl
  | cons digit digits inductionHypothesis =>
      have isDigit := areDigits digit List.mem_cons_self
      have laterAre := fun other isLater => areDigits other (List.mem_cons_of_mem digit isLater)
      simp only [List.length_cons, List.map_cons, List.cons_append, takeNumber?,
        Text.digitValue?_digitCharacter isDigit]
      exact inductionHypothesis laterAre (number * 10 + digit)

/-- A part with enough digits for its number is read back. -/
theorem readNumber_padded (component : Component) {width number : Nat}
    (fits : number < Nat.pow 10 width) (rest : List Char) :
    readNumber component width (Text.decimalPadded width number ++ rest) = .ok (number, rest) := by
  have taken := takeNumber?_digits (Text.lastDigits_areDigits width number) 0 rest
  have denotes := Text.numberOf_lastDigits width number
  rw [Text.lastDigits_length] at taken
  rw [Text.numberOf, Nat.mod_eq_of_lt fits] at denotes
  rw [denotes] at taken
  simp only [readNumber, Text.decimalPadded, taken]

/-- Six digits behind the point count microseconds. -/
theorem nanosecondsOf_lastDigits {microsecond : Nat} (small : microsecond ≤ 999999) :
    nanosecondsOf (Text.lastDigits 6 microsecond) = microsecond * 1000 := by
  have filled : (Text.lastDigits 6 microsecond ++ List.replicate 9 0).take 9 =
      Text.lastDigits 6 microsecond ++ [0] ++ [0] ++ [0] := by
    have six : (Text.lastDigits 6 microsecond).length ≤ 9 := by simp
    simp [List.take_append, List.take_of_length_le six]
  have fits : microsecond % Nat.pow 10 6 = microsecond := Nat.mod_eq_of_lt (Nat.lt_succ_of_le small)
  simp only [nanosecondsOf, filled, Text.numberOf_concat, Text.numberOf_lastDigits, fits]
  omega

private theorem readFraction_padded {microsecond : Nat} (small : microsecond ≤ 999999)
    {rest : List Char}
    (stops : Text.StopsDigits rest) :
    readFraction ('.' :: (Text.decimalPadded 6 microsecond ++ rest)) =
      .ok (microsecond * 1000, rest) := by
  have spanned := Text.spanDigits_append (Text.lastDigits_areDigits 6 microsecond) stops
  have denotes := nanosecondsOf_lastDigits small
  have isFull := Text.lastDigits_length 6 microsecond
  rw [readFraction, Text.decimalPadded, spanned]
  cases digits : Text.lastDigits 6 microsecond with
  | nil =>
      rw [digits] at isFull
      contradiction
  | cons first others =>
      rw [digits] at denotes
      simp only [denotes]

private theorem readMonth_padded {month : Nat} (months : 1 ≤ month ∧ month ≤ 12)
    (rest : List Char) :
    readMonth (Text.decimalPadded 2 month ++ rest) = .ok (month, rest) := by
  have fits : month < Nat.pow 10 2 := Nat.lt_of_le_of_lt months.2 (by decide)
  have isMonth : month ≠ 0 := Nat.ne_of_gt months.1
  rw [readMonth, readNumber_padded .month fits]
  exact if_neg isMonth

private theorem readOffsetParts_written {hours minutes : Nat} (hoursFit : hours < 24)
    (minutesFit : minutes < 60) :
    readOffsetParts (Zone.writtenParts hours minutes) = .ok (hours * 60 + minutes, []) := by
  have twoHours : hours < Nat.pow 10 2 := Nat.lt_trans hoursFit (by decide)
  have twoMinutes : minutes < Nat.pow 10 2 := Nat.lt_trans minutesFit (by decide)
  have ends := readNumber_padded .offsetMinute twoMinutes []
  rw [List.append_nil] at ends
  rw [readOffsetParts, Zone.writtenParts, readNumber_padded .offsetHour twoHours]
  have hoursRange : ¬ 23 < hours := Nat.not_lt.mpr (Nat.le_of_lt_succ hoursFit)
  have minutesRange : ¬ 59 < minutes := Nat.not_lt.mpr (Nat.le_of_lt_succ minutesFit)
  simp [bind, Except.bind, hoursRange, ends, minutesRange, pure, Except.pure]

private theorem readOffset_written (zone : Zone) :
    readOffset zone.written = .ok (zone.offset, []) := by
  cases zone with
  | utc => rfl
  | ahead hours minutes =>
      have parts := readOffsetParts_written hours.isLt minutes.isLt
      show (readOffsetParts (Zone.writtenParts hours minutes) >>= _) = _
      rw [parts]
      rfl
  | behind hours minutes =>
      have parts := readOffsetParts_written hours.isLt minutes.isLt
      show (readOffsetParts (Zone.writtenParts hours minutes) >>= _) = _
      rw [parts]
      rfl

private theorem readLocalTime_written {time : LocalTime} (showable : time.Showable) {zone : Zone}
    (atPlace : time.offset = zone.offset) :
    readLocalTime (time.written zone) = .ok time := by
  obtain ⟨⟨year, month, day⟩, hour, minute, second, nanosecond, offset⟩ := time
  obtain ⟨years, ⟨months, -, days⟩, hours, minutes, seconds, microsecond, small, rfl⟩ := showable
  have length := Date.monthLength_range year month
  dsimp only at years months days hours minutes seconds atPlace
  have fourYear : year.toNat < Nat.pow 10 4 := (by omega : year.toNat < 10000)
  have twoDay : day < Nat.pow 10 2 := (by omega : day < 100)
  have twoHour : hour < Nat.pow 10 2 := (by omega : hour < 100)
  have twoMinute : minute < Nat.pow 10 2 := (by omega : minute < 100)
  have twoSecond : second < Nat.pow 10 2 := (by omega : second < 100)
  have whole : microsecond * 1000 / 1000 = microsecond := Nat.mul_div_cancel microsecond (by decide)
  have sameYear : (year.toNat : Int) = year := by omega
  simp only [readLocalTime, LocalTime.written, bind, Except.bind, readMark_cons, readSeparator_cons,
    readNumber_padded .year fourYear, readMonth_padded months, readNumber_padded .day twoDay,
    readNumber_padded .hour twoHour, readNumber_padded .minute twoMinute,
    readNumber_padded .second twoSecond, whole,
    readFraction_padded small zone.written_stopsDigits, readOffset_written, sameYear, atPlace]
  rfl

/-- A local time that was written is read back. -/
theorem read_written {time : LocalTime} (showable : time.Showable) {zone : Zone}
    (atPlace : time.offset = zone.offset) : read (time.written zone) = .ok time := by
  rw [read, readLocalTime_written showable atPlace]
  simp only [bind, Except.bind, showable.outOfRange?, showable.withoutLeapSecond]
  rfl

end Timestamp

end ScriptedSql
