import ScriptedSql.Proofs.Timestamp.Rendering

/-!
Contract: the instants that time stamps stand for.

Owns:
- the local time of a place at an instant, and its rendering;
- the agreement: the rendering of an instant is read as that instant, wherever it was made;
- the range of all that can be read, which lies within 64 bits.

Does not own: the format (`Timestamp.Rendering`).
-/

namespace ScriptedSql

namespace Timestamp

/-! ## The range of what is read -/

/-- A reading that succeeds has succeeded with its first part. -/
theorem of_bind_ok {α β : Type} {first : Except Fault α} {next : α → Except Fault β} {result : β}
    (read : first >>= next = .ok result) :
    ∃ value, first = .ok value ∧ next value = .ok result := by
  cases first with
  | error fault => contradiction
  | ok value => exact ⟨value, rfl, read⟩

private theorem digits_of_takeNumber? {number count : Nat} {text : List Char}
    {found : Nat × List Char}
    (taken : takeNumber? number count text = some found) :
    ∃ digits : List Nat, digits.length = count ∧ (∀ digit ∈ digits, digit < 10) ∧
      found.1 = digits.foldl (fun number digit => number * 10 + digit) number := by
  induction count generalizing number text with
  | zero =>
      cases taken
      exact ⟨[], rfl, nofun, rfl⟩
  | succ count inductionHypothesis =>
      cases text with
      | nil => contradiction
      | cons character rest =>
          unfold takeNumber? at taken
          cases isDigit : Text.digitValue? character with
          | none =>
              rw [isDigit] at taken
              contradiction
          | some digit =>
              rw [isDigit] at taken
              obtain ⟨digits, length, areDigits, denotes⟩ := inductionHypothesis taken
              refine ⟨digit :: digits, congrArg (· + 1) length, ?_, denotes⟩
              exact List.forall_mem_cons.mpr ⟨Text.digitValue?_lt isDigit, areDigits⟩

private theorem readNumber_lt {component : Component} {count : Nat} {text : List Char}
    {found : Nat × List Char} (read : readNumber component count text = .ok found) :
    found.1 < Nat.pow 10 count := by
  unfold readNumber at read
  cases taken : takeNumber? 0 count text with
  | none =>
      rw [taken] at read
      contradiction
  | some number =>
      rw [taken] at read
      cases read
      obtain ⟨digits, rfl, areDigits, denotes⟩ := digits_of_takeNumber? taken
      rw [denotes]
      exact Text.numberOf_lt areDigits

private theorem nanosecondsOf_lt {digits : List Nat} (areDigits : ∀ digit ∈ digits, digit < 10) :
    nanosecondsOf digits < 1000000000 := by
  have length : ((digits ++ List.replicate 9 0).take 9).length = 9 := by
    rw [List.length_take, List.length_append, List.length_replicate]
    omega
  have filledAre : ∀ digit ∈ (digits ++ List.replicate 9 0).take 9, digit < 10 := by
    intro digit isThere
    rcases List.mem_append.mp (List.mem_of_mem_take isThere) with isGiven | isZero
    · exact areDigits digit isGiven
    · rw [List.eq_of_mem_replicate isZero]
      decide
  have below := Text.numberOf_lt filledAre
  rw [length] at below
  exact below

private theorem readFraction_lt {text : List Char} {found : Nat × List Char}
    (read : readFraction text = .ok found) : found.1 < 1000000000 := by
  unfold readFraction at read
  split at read
  next rest =>
      have areDigits := Text.spanDigits_areDigits rest
      split at read
      next => contradiction
      next digits after _ spanned =>
          cases read
          rw [spanned] at areDigits
          exact nanosecondsOf_lt areDigits
  next =>
      cases read
      exact Nat.succ_pos _

private theorem readOffsetParts_lt {text : List Char} {found : Nat × List Char}
    (read : readOffsetParts text = .ok found) : found.1 < 1440 := by
  unfold readOffsetParts at read
  obtain ⟨⟨hours, afterHours⟩, -, read⟩ := of_bind_ok read
  dsimp only at read
  by_cases hoursFit : 23 < hours
  · rw [if_pos hoursFit] at read
    contradiction
  · rw [if_neg hoursFit] at read
    obtain ⟨afterMark, -, read⟩ := of_bind_ok read
    obtain ⟨⟨minutes, afterMinutes⟩, -, read⟩ := of_bind_ok read
    dsimp only at read
    by_cases minutesFit : 59 < minutes
    · rw [if_pos minutesFit] at read
      contradiction
    · rw [if_neg minutesFit] at read
      cases read
      dsimp only
      omega

private theorem readOffset_range {text : List Char} {found : Int × List Char}
    (read : readOffset text = .ok found) : -1440 < found.1 ∧ found.1 < 1440 := by
  cases text with
  | nil => contradiction
  | cons character rest =>
      simp only [readOffset] at read
      by_cases utc : character = 'Z' ∨ character = 'z'
      · rw [if_pos utc] at read
        cases read
        exact Zone.offset_range .utc
      · rw [if_neg utc] at read
        by_cases ahead : character = '+'
        · rw [if_pos ahead] at read
          obtain ⟨⟨minutes, after⟩, parts, read⟩ := of_bind_ok read
          have below := readOffsetParts_lt parts
          cases read
          dsimp only at below ⊢
          omega
        · rw [if_neg ahead] at read
          by_cases behind : character = '-'
          · rw [if_pos behind] at read
            obtain ⟨⟨minutes, after⟩, parts, read⟩ := of_bind_ok read
            have below := readOffsetParts_lt parts
            cases read
            dsimp only at below ⊢
            omega
          · rw [if_neg behind] at read
            contradiction

namespace LocalTime

/-- All that the texts of time stamps can tell, dates that there are not included. -/
structure InRange (time : LocalTime) : Prop where
  year : 0 ≤ time.date.year ∧ time.date.year ≤ 9999
  month : 1 ≤ time.date.month ∧ time.date.month ≤ 12
  day : 1 ≤ time.date.day ∧ time.date.day ≤ 31
  hour : time.hour ≤ 23
  minute : time.minute ≤ 59
  second : time.second ≤ 60
  nanosecond : time.nanosecond < 1000000000
  offset : -1440 < time.offset ∧ time.offset < 1440

end LocalTime

private theorem readLocalTime_range {text : List Char} {time : LocalTime}
    (read : readLocalTime text = .ok time) :
    (0 ≤ time.date.year ∧ time.date.year ≤ 9999) ∧ time.nanosecond < 1000000000 ∧
      -1440 < time.offset ∧ time.offset < 1440 := by
  unfold readLocalTime at read
  obtain ⟨⟨year, _⟩, yearRead, read⟩ := of_bind_ok read
  obtain ⟨_, -, read⟩ := of_bind_ok read
  obtain ⟨⟨month, _⟩, -, read⟩ := of_bind_ok read
  obtain ⟨_, -, read⟩ := of_bind_ok read
  obtain ⟨⟨day, _⟩, -, read⟩ := of_bind_ok read
  obtain ⟨_, -, read⟩ := of_bind_ok read
  obtain ⟨⟨hour, _⟩, -, read⟩ := of_bind_ok read
  obtain ⟨_, -, read⟩ := of_bind_ok read
  obtain ⟨⟨minute, _⟩, -, read⟩ := of_bind_ok read
  obtain ⟨_, -, read⟩ := of_bind_ok read
  obtain ⟨⟨second, _⟩, -, read⟩ := of_bind_ok read
  obtain ⟨⟨nanosecond, _⟩, fractionRead, read⟩ := of_bind_ok read
  obtain ⟨⟨offset, after⟩, offsetRead, read⟩ := of_bind_ok read
  have fourDigits : year < 10000 := readNumber_lt yearRead
  by_cases ended : after.isEmpty = true
  · simp only [if_pos ended] at read
    cases read
    refine ⟨?_, readFraction_lt fractionRead, readOffset_range offsetRead⟩
    dsimp only
    omega
  · simp only [if_neg ended] at read
    contradiction

namespace LocalTime

private theorem inRange_of_outOfRange? {time : LocalTime} (found : time.outOfRange? = none)
    (years : 0 ≤ time.date.year ∧ time.date.year ≤ 9999)
    (nanoseconds : time.nanosecond < 1000000000)
    (offsets : -1440 < time.offset ∧ time.offset < 1440) : time.InRange := by
  have length := Date.monthLength_range time.date.year time.date.month
  unfold outOfRange? at found
  -- The checks are passed one after the other.
  split at found
  · contradiction
  next months =>
  split at found
  · contradiction
  next days =>
  split at found
  · contradiction
  next hours =>
  split at found
  · contradiction
  next minutes =>
  split at found
  · contradiction
  next seconds =>
  exact ⟨years, by omega, by omega, by omega, by omega, by omega, nanoseconds, offsets⟩

theorem InRange.withoutLeapSecond {time : LocalTime} (inRange : time.InRange) :
    time.withoutLeapSecond.InRange := by
  unfold LocalTime.withoutLeapSecond
  by_cases isLeap : time.second = 60
  · rw [if_pos isLeap]
    exact { inRange with second := Nat.le_succ 59, nanosecond := Nat.lt_succ_self 999999999 }
  · rw [if_neg isLeap]
    exact inRange

/-- The microseconds of every time that a text can tell fit 64 bits, so that reading one never
fails for its size. -/
theorem InRange.utcMicroseconds {time : LocalTime} (inRange : time.InRange) :
    -9223372036854775808 ≤ time.utcMicroseconds ∧
      time.utcMicroseconds ≤ 9223372036854775807 := by
  obtain ⟨years, months, days, hours, minutes, seconds, nanoseconds, offsets⟩ := inRange
  have dayRange : -719900 ≤ time.date.dayNumber ∧ time.date.dayNumber ≤ 2933000 := by
    unfold Date.dayNumber Date.daysBeforeYear Date.daysBeforeMonth Date.daysBeforeEpoch
    dsimp only
    split <;> omega
  have range : -9223372036854775808 * 1000 ≤ time.utcNanoseconds ∧
      time.utcNanoseconds ≤ 9223372036854775807 * 1000 := by
    unfold LocalTime.utcNanoseconds LocalTime.utcSeconds
    omega
  have low := Int.tdiv_le_tdiv (by decide : (0 : Int) < 1000) range.1
  have high := Int.tdiv_le_tdiv (by decide : (0 : Int) < 1000) range.2
  rw [Int.mul_tdiv_cancel _ (by decide)] at low high
  exact ⟨low, high⟩

end LocalTime

private theorem read_inRange {text : List Char} {time : LocalTime}
    (success : read text = .ok time) :
    time.InRange := by
  unfold read at success
  obtain ⟨written, writtenRead, success⟩ := of_bind_ok success
  obtain ⟨years, nanoseconds, offsets⟩ := readLocalTime_range writtenRead
  cases found : written.outOfRange? with
  | some component =>
      rw [found] at success
      contradiction
  | none =>
      rw [found] at success
      cases success
      exact (LocalTime.inRange_of_outOfRange? found years nanoseconds offsets).withoutLeapSecond

/-! ## Instants -/

namespace LocalTime

/-- The local time of a place, so many minutes ahead of UTC, at an instant in microseconds. -/
def ofInstant (microseconds offset : Int) : LocalTime :=
  let shifted := microseconds + offset * 60000000
  let seconds := shifted / 1000000
  let secondOfDay := (seconds % 86400).toNat
  { date := Date.ofDayNumber (seconds / 86400)
    hour := secondOfDay / 3600
    minute := secondOfDay / 60 % 60
    second := secondOfDay % 60
    nanosecond := (shifted % 1000000).toNat * 1000
    offset := offset }

private theorem ofInstant_showable {microseconds offset : Int}
    (year : 0 ≤ (ofInstant microseconds offset).date.year ∧
      (ofInstant microseconds offset).date.year ≤ 9999) :
    (ofInstant microseconds offset).Showable where
  year := year
  date := Date.ofDayNumber_exists _
  hour := by
    dsimp only [ofInstant]
    omega
  minute := by
    dsimp only [ofInstant]
    omega
  second := by
    dsimp only [ofInstant]
    omega
  fraction := by
    refine ⟨((microseconds + offset * 60000000) % 1000000).toNat, ?_, rfl⟩
    omega

/-- A local time stands for the instant at which it is the time. -/
theorem ofInstant_utcMicroseconds (microseconds offset : Int) :
    (ofInstant microseconds offset).utcMicroseconds = microseconds := by
  have isSum : (ofInstant microseconds offset).utcNanoseconds = microseconds * 1000 := by
    dsimp only [utcNanoseconds, utcSeconds, ofInstant]
    rw [Date.dayNumber_ofDayNumber]
    omega
  rw [utcMicroseconds, isSum, Int.mul_tdiv_cancel _ (by decide)]

end LocalTime

/-- The text that shows an instant in microseconds at a place. -/
def rendered (microseconds : Int) (zone : Zone) : String :=
  String.ofList ((LocalTime.ofInstant microseconds zone.offset).written zone)

def HasFourDigitYear (microseconds : Int) (zone : Zone) : Prop :=
  0 ≤ (LocalTime.ofInstant microseconds zone.offset).date.year ∧
    (LocalTime.ofInstant microseconds zone.offset).date.year ≤ 9999

private theorem ofTimestamp_of_read {text : String} {time : LocalTime}
    (success : read text.toList = .ok time) :
    Value.ofTimestamp text = .ok (.timestampTz (Int64.ofInt time.utcMicroseconds)) := by
  have range := (read_inRange success).utcMicroseconds
  simp only [Value.ofTimestamp, success, if_pos range]

private theorem ofTimestamp_rendered {microseconds : Int} {zone : Zone}
    (hasYear : HasFourDigitYear microseconds zone) :
    Value.ofTimestamp (rendered microseconds zone) =
        .ok (.timestampTz (Int64.ofInt microseconds)) ∧
      (Int64.ofInt microseconds).toInt = microseconds := by
  have success : read (rendered microseconds zone).toList =
      .ok (LocalTime.ofInstant microseconds zone.offset) := by
    rw [rendered, String.toList_ofList]
    exact read_written (LocalTime.ofInstant_showable hasYear) rfl
  have value := ofTimestamp_of_read success
  have range := (read_inRange success).utcMicroseconds
  rw [LocalTime.ofInstant_utcMicroseconds] at value range
  exact ⟨value, Int64.toInt_ofInt_of_le range.1 (Int.lt_add_one_of_le range.2)⟩

private theorem ofTimestamp_within (text actual : String) (column : Option String) :
    Value.ofTimestamp text ≠
      .error (.type ⟨"timestamp within i64 microseconds", actual, column⟩) := by
  cases success : read text.toList with
  | ok time =>
      rw [ofTimestamp_of_read success]
      exact nofun
  | error fault =>
      simp [Value.ofTimestamp, success]

/-- Dates follow each other as in the calendar, forwards and backwards from the first day of
1970. An instant that is rendered at any place less than a day ahead of UTC or behind it, where
its year has at most four digits, is read as exactly that instant, in microseconds. So all
renderings of one instant have the same value. No text at all is refused because its instant
does not fit into 64 bits. -/
theorem rendered_instant_is_read :
    (Date.ofDayNumber 0 = ⟨1970, 1, 1⟩ ∧
      ∀ number, Date.ofDayNumber (number + 1) = (Date.ofDayNumber number).next) ∧
    (∀ offset : Int, -1440 < offset ∧ offset < 1440 → ∃ zone : Zone, zone.offset = offset) ∧
    (∀ microseconds zone, HasFourDigitYear microseconds zone →
      ∃ instant : Int64, instant.toInt = microseconds ∧
        Value.ofTimestamp (rendered microseconds zone) = .ok (.timestampTz instant)) ∧
    (∀ microseconds first second,
      HasFourDigitYear microseconds first → HasFourDigitYear microseconds second →
        Value.ofTimestamp (rendered microseconds first) =
          Value.ofTimestamp (rendered microseconds second)) ∧
    ∀ text actual column, Value.ofTimestamp text ≠
      .error (.type ⟨"timestamp within i64 microseconds", actual, column⟩) := by
  refine ⟨⟨rfl, Date.ofDayNumber_succ⟩, fun _ => Zone.exists_of_offset, ?_, ?_,
    ofTimestamp_within⟩
  · intro microseconds zone hasYear
    obtain ⟨isRead, isExact⟩ := ofTimestamp_rendered hasYear
    exact ⟨_, isExact, isRead⟩
  · intro microseconds first second firstHasYear secondHasYear
    rw [(ofTimestamp_rendered firstHasYear).1, (ofTimestamp_rendered secondHasYear).1]

/-- The last microsecond of the year zero in UTC, for which the year one has come elsewhere. -/
theorem last_of_year_zero_is_read :
    rendered (-62135596800000001) .utc = "0000-12-31T23:59:59.999999Z" ∧
      rendered (-62135596800000001) (.ahead 23 59) = "0001-01-01T23:58:59.999999+23:59" ∧
      Value.ofTimestamp "0000-12-31T23:59:59.999999Z" =
        Value.ofTimestamp "0001-01-01T23:58:59.999999+23:59" := by
  have inUtc : HasFourDigitYear (-62135596800000001) .utc := ⟨by decide, by decide⟩
  have elsewhere : HasFourDigitYear (-62135596800000001) (.ahead 23 59) :=
    ⟨by decide, by decide⟩
  have same := rendered_instant_is_read.2.2.2.1 _ _ _ inUtc elsewhere
  have firstText : rendered (-62135596800000001) .utc = "0000-12-31T23:59:59.999999Z" := by
    decide +kernel
  have secondText : rendered (-62135596800000001) (.ahead 23 59) =
      "0001-01-01T23:58:59.999999+23:59" := by
    decide +kernel
  rw [firstText, secondText] at same
  exact ⟨firstText, secondText, same⟩

end Timestamp

end ScriptedSql
