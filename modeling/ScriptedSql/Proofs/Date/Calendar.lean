import Mathlib.Tactic.IntervalCases
import ScriptedSql.Date

/-!
Contract: dates and the numbers of their days.

Owns:
- which dates there are, and the date that follows another one;
- the places of days in the calendar: full cycles of four hundred years, centuries, groups of
  four years and single years that have passed, all of them years that begin with March;
- the agreement: dates that there are and numbers of days belong to each other one to one,
  and the next number is that of the next date.

Does not own: times of day and offsets (`Timestamp`).
-/

namespace ScriptedSql

namespace Date

/-- A date of the calendar. -/
structure Exists (date : Date) : Prop where
  month : 1 ≤ date.month ∧ date.month ≤ 12
  day : 1 ≤ date.day ∧ date.day ≤ monthLength date.year date.month

def next (date : Date) : Date :=
  if date.isLastOfMonth then
    if date.month = 12 then ⟨date.year + 1, 1, 1⟩ else ⟨date.year, date.month + 1, 1⟩
  else { date with day := date.day + 1 }

/-! ## Months of years that begin with March -/

/-- The month of such a year into which a day of it falls, both counted from zero. -/
def monthOfDay (day : Int) : Int :=
  (5 * day + 2) / 153

/-- The date of a day, counted from one, in a month of such a year. The last two months
belong to the next year. -/
def ofMarch (year month day : Int) : Date :=
  if month < 10 then ⟨year, (month + 3).toNat, day.toNat⟩
  else ⟨year + 1, (month - 9).toNat, day.toNat⟩

private theorem monthOfDay_range {day : Int} (_ : 0 ≤ day ∧ day ≤ 365) :
    0 ≤ monthOfDay day ∧ monthOfDay day ≤ 11 := by
  unfold monthOfDay
  omega

/-- A day falls into the month between whose beginning and end it lies. -/
theorem monthOfDay_eq_iff {day month : Int} :
    monthOfDay day = month ↔ daysBeforeMonth month ≤ day ∧ day < daysBeforeMonth (month + 1) := by
  unfold monthOfDay daysBeforeMonth
  omega

private theorem dayNumber_ofMarch (year : Int) {month day : Int} (months : 0 ≤ month ∧ month ≤ 11)
    (days : 1 ≤ day) :
    (ofMarch year month day).dayNumber =
      daysBeforeYear year + daysBeforeMonth month + (day - 1) - daysBeforeEpoch := by
  have sameDay : (day.toNat : Int) = day := by omega
  unfold ofMarch
  by_cases sameYear : month < 10
  · have late : ¬ (month + 3).toNat ≤ 2 := by omega
    have sameMonth : ((month + 3).toNat - 3 : Nat) = month := by omega
    simp only [if_pos sameYear, dayNumber, if_neg late, sameMonth, sameDay]
  · have early : (month - 9).toNat ≤ 2 := by omega
    have sameMonth : ((month - 9).toNat + 9 : Nat) = month := by omega
    simp only [if_neg sameYear, dayNumber, if_pos early, sameMonth, sameDay,
      Int.add_sub_cancel]

/-- The month that comes last is the February of the next year; the others end where the
following one begins. -/
theorem monthLength_ofMarch (year : Int) {month : Int} (months : 0 ≤ month ∧ month ≤ 11)
    (day : Int) :
    (monthLength (ofMarch year month day).year (ofMarch year month day).month : Int) =
      if month = 11 then if isLeapYear (year + 1) then 29 else 28
      else daysBeforeMonth (month + 1) - daysBeforeMonth month := by
  obtain ⟨low, high⟩ := months
  rcases Int.lt_or_eq_of_le high with early | rfl
  · rw [if_neg (Int.ne_of_lt early)]
    unfold ofMarch
    interval_cases month <;> rfl
  · show ((if isLeapYear (year + 1) then 29 else 28 : Nat) : Int) = _
    rw [if_pos rfl]
    split <;> rfl

private theorem exists_ofMarch_iff (year : Int) {month day : Int} (months : 0 ≤ month ∧ month ≤ 11)
    (days : 1 ≤ day) :
    (ofMarch year month day).Exists ↔
      day ≤ if month = 11 then if isLeapYear (year + 1) then 29 else 28
        else daysBeforeMonth (month + 1) - daysBeforeMonth month := by
  rw [← monthLength_ofMarch year months day]
  have sameDay : (ofMarch year month day).day = day.toNat := by
    unfold ofMarch
    split <;> rfl
  have monthRange : 1 ≤ (ofMarch year month day).month ∧ (ofMarch year month day).month ≤ 12 := by
    unfold ofMarch
    split <;> dsimp only <;> omega
  constructor
  · rintro ⟨-, -, within⟩
    omega
  · intro within
    exact ⟨monthRange, by omega, by omega⟩

private theorem exists_eq_ofMarch {date : Date} (months : 1 ≤ date.month ∧ date.month ≤ 12) :
    ∃ year month : Int, (0 ≤ month ∧ month ≤ 11) ∧ ofMarch year month date.day = date := by
  obtain ⟨year, month, day⟩ := date
  dsimp only at months ⊢
  by_cases early : month ≤ 2
  · have late : ¬ (month : Int) + 9 < 10 := by omega
    refine ⟨year - 1, month + 9, by omega, ?_⟩
    rw [ofMarch, if_neg late]
    simp
  · have sameYear : (month : Int) - 3 < 10 := by omega
    refine ⟨year, month - 3, by omega, ?_⟩
    rw [ofMarch, if_pos sameYear]
    simp

/-! ## Places in the calendar -/

/-- What has passed before a day since the first of March in year zero. A year has 366 days
only as the last one of its group, and in the last group of a century only if that century is
the last one of its cycle. -/
structure Place where
  cycle : Int
  century : Int
  group : Int
  year : Int
  day : Int
  centuryRange : 0 ≤ century ∧ century ≤ 3
  groupRange : 0 ≤ group ∧ group ≤ 24
  yearRange : 0 ≤ year ∧ year ≤ 3
  dayRange : 0 ≤ day ∧ day ≤ 365
  leapDay : day = 365 → year = 3 ∧ (group = 24 → century = 3)

namespace Place

def daysOfCycle (place : Place) : Int :=
  36524 * place.century + 1461 * place.group + 365 * place.year + place.day

def yearsOfCycle (place : Place) : Int :=
  100 * place.century + 4 * place.group + place.year

def number (place : Place) : Int :=
  146097 * place.cycle + place.daysOfCycle - daysBeforeEpoch

def date (place : Place) : Date :=
  ofMarch (400 * place.cycle + place.yearsOfCycle) (monthOfDay place.day)
    (place.day - daysBeforeMonth (monthOfDay place.day) + 1)

private theorem daysOfCycle_range (place : Place) :
    0 ≤ place.daysOfCycle ∧ place.daysOfCycle < 146097 := by
  obtain ⟨cycle, century, group, year, day, _, _, _, _, _⟩ := place
  simp only [daysOfCycle]
  omega

private theorem isLeapYear_iff (cycle : Int) {century group year : Int}
    (centuries : 0 ≤ century ∧ century ≤ 3) (groups : 0 ≤ group ∧ group ≤ 24)
    (years : 0 ≤ year ∧ year ≤ 3) :
    isLeapYear (400 * cycle + (100 * century + 4 * group + year) + 1) = true ↔
      year = 3 ∧ (group = 24 → century = 3) := by
  simp only [isLeapYear, Bool.and_eq_true, Bool.or_eq_true, beq_iff_eq, bne_iff_ne]
  omega

/-- Every day has a place. -/
theorem exists_of_number (number : Int) : ∃ place : Place, place.number = number := by
  obtain ⟨cycle, inCycle, isSum, cycleRest⟩ : ∃ cycle rest,
      number + daysBeforeEpoch = 146097 * cycle + rest ∧ 0 ≤ rest ∧ rest < 146097 := by
    refine ⟨(number + daysBeforeEpoch) / 146097, (number + daysBeforeEpoch) % 146097, ?_⟩
    omega
  -- The last century of a cycle has a day more than the others, as has the last year of a group.
  obtain ⟨century, inCentury, rfl, centuryRange, centuryRest⟩ : ∃ century rest,
      inCycle = 36524 * century + rest ∧ (0 ≤ century ∧ century ≤ 3) ∧
        0 ≤ rest ∧ (rest < 36524 ∨ rest = 36524 ∧ century = 3) := by
    refine ⟨min 3 (inCycle / 36524), inCycle - 36524 * min 3 (inCycle / 36524), ?_⟩
    omega
  obtain ⟨group, inGroup, rfl, groupRange, groupRest⟩ : ∃ group rest,
      inCentury = 1461 * group + rest ∧ (0 ≤ group ∧ group ≤ 24) ∧
        0 ≤ rest ∧ rest < 1461 ∧ (group = 24 → rest < 1460 ∨ century = 3) := by
    refine ⟨inCentury / 1461, inCentury % 1461, ?_⟩
    omega
  obtain ⟨year, day, rfl, yearRange, yearRest⟩ : ∃ year rest,
      inGroup = 365 * year + rest ∧ (0 ≤ year ∧ year ≤ 3) ∧
        0 ≤ rest ∧ (rest < 365 ∨ rest = 365 ∧ year = 3) := by
    refine ⟨min 3 (inGroup / 365), inGroup - 365 * min 3 (inGroup / 365), ?_⟩
    omega
  refine ⟨⟨cycle, century, group, year, day, centuryRange, groupRange, yearRange, ?_, ?_⟩, ?_⟩
  · omega
  · omega
  · simp only [Place.number, daysOfCycle]
    omega

/-- Once the leap days are taken out, the days of a cycle count its years. -/
theorem yearsOfCycle_eq (place : Place) :
    (place.daysOfCycle - place.daysOfCycle / 1460 + place.daysOfCycle / 36524 -
      place.daysOfCycle / 146096) / 365 = place.yearsOfCycle := by
  obtain ⟨cycle, century, group, year, day, _, _, _, _, _⟩ := place
  simp only [daysOfCycle, yearsOfCycle]
  by_cases last : century = 3 ∧ group = 24 ∧ year = 3 ∧ day = 365
  · obtain ⟨rfl, rfl, rfl, rfl⟩ := last
    rfl
  · have inCentury : 1461 * group + 365 * year + day < 36524 := by omega
    have centuries : (36524 * century + 1461 * group + 365 * year + day) / 36524 = century := by
      omega
    have cycles : (36524 * century + 1461 * group + 365 * year + day) / 146096 = 0 := by omega
    rw [centuries, cycles]
    omega

private theorem daysBeforeYear_yearsOfCycle (place : Place) :
    daysBeforeYear place.yearsOfCycle = place.daysOfCycle - place.day := by
  obtain ⟨cycle, century, group, year, day, _, _, _, _, _⟩ := place
  simp only [daysOfCycle, yearsOfCycle, daysBeforeYear]
  omega

private theorem daysBeforeYear_years (place : Place) :
    daysBeforeYear (400 * place.cycle + place.yearsOfCycle) =
      146097 * place.cycle + place.daysOfCycle - place.day := by
  have inCycle := place.daysBeforeYear_yearsOfCycle
  unfold daysBeforeYear at inCycle ⊢
  omega

private theorem ofDayNumber_number (place : Place) : ofDayNumber place.number = place.date := by
  have range := place.daysOfCycle_range
  have cycles : (place.number + daysBeforeEpoch) / 146097 = place.cycle := by
    unfold number
    omega
  have inCycle : (place.number + daysBeforeEpoch) % 146097 = place.daysOfCycle := by
    unfold number
    omega
  have inYear : place.daysOfCycle - (place.daysOfCycle - place.day) = place.day := by omega
  simp only [ofDayNumber, cycles, inCycle, yearsOfCycle_eq, daysBeforeYear_yearsOfCycle, inYear]
  rfl

private theorem dayNumber_date (place : Place) : place.date.dayNumber = place.number := by
  have months := monthOfDay_range place.dayRange
  obtain ⟨begun, -⟩ := monthOfDay_eq_iff.mp (Eq.refl (monthOfDay place.day))
  rw [date, dayNumber_ofMarch _ months (by omega), daysBeforeYear_years, number]
  omega

private theorem date_exists (place : Place) : place.date.Exists := by
  have months := monthOfDay_range place.dayRange
  obtain ⟨begun, within⟩ := monthOfDay_eq_iff.mp (Eq.refl (monthOfDay place.day))
  rw [date, exists_ofMarch_iff _ months (by omega)]
  by_cases last : monthOfDay place.day = 11
  · have february : daysBeforeMonth 11 = 337 := rfl
    have days := place.dayRange
    rw [if_pos last, last, february]
    by_cases leapDay : place.day = 365
    · have leap := (isLeapYear_iff place.cycle place.centuryRange place.groupRange
        place.yearRange).mpr (place.leapDay leapDay)
      rw [yearsOfCycle, if_pos leap, leapDay]
      decide
    · split <;> omega
  · rw [if_neg last]
    omega

private theorem exists_of_year (years : Int) : ∃ cycle century group year : Int,
    years = 400 * cycle + (100 * century + 4 * group + year) ∧ (0 ≤ century ∧ century ≤ 3) ∧
      (0 ≤ group ∧ group ≤ 24) ∧ (0 ≤ year ∧ year ≤ 3) := by
  have inCycle : years = 400 * (years / 400) + years % 400 := by omega
  have inCentury : years % 400 = 100 * (years % 400 / 100) + years % 400 % 100 := by omega
  have inGroup : years % 400 % 100 =
      4 * (years % 400 % 100 / 4) + years % 400 % 100 % 4 := by omega
  refine ⟨years / 400, years % 400 / 100, years % 400 % 100 / 4, years % 400 % 100 % 4, ?_⟩
  omega

/-- Every date of the calendar has a place. -/
theorem exists_of_date {date : Date} (isThere : date.Exists) :
    ∃ place : Place, place.date = date := by
  obtain ⟨years, month, months, isDate⟩ := exists_eq_ofMarch isThere.month
  have days : 1 ≤ (date.day : Int) := Int.ofNat_le.mpr isThere.day.1
  rw [← isDate, exists_ofMarch_iff years months days] at isThere
  obtain ⟨day, isDay⟩ : ∃ day, day = daysBeforeMonth month + date.day - 1 := ⟨_, rfl⟩
  have february : daysBeforeMonth 11 = 337 := rfl
  have ofMonth : monthOfDay day = month := by
    rw [monthOfDay_eq_iff]
    unfold daysBeforeMonth at *
    split at isThere
    · split at isThere <;> omega
    · omega
  have dayRange : 0 ≤ day ∧ day ≤ 365 := by
    rw [monthOfDay_eq_iff] at ofMonth
    unfold daysBeforeMonth at *
    omega
  have leapDay : day = 365 → isLeapYear (years + 1) = true := by
    rintro rfl
    obtain rfl : 11 = month := ofMonth
    by_contra common
    rw [if_pos rfl, if_neg common] at isThere
    omega
  obtain ⟨cycle, century, group, year, rfl, centuries, groups, singles⟩ := exists_of_year years
  rw [isLeapYear_iff cycle centuries groups singles] at leapDay
  refine ⟨⟨cycle, century, group, year, day, centuries, groups, singles, dayRange, leapDay⟩, ?_⟩
  have ofDay : day - daysBeforeMonth month + 1 = date.day := by omega
  simp only [Place.date, yearsOfCycle, ofMonth, ofDay, isDate]

end Place

/-! ## Numbers of days -/

/-- The date of a day number has that number. -/
theorem dayNumber_ofDayNumber (number : Int) : (ofDayNumber number).dayNumber = number := by
  obtain ⟨place, rfl⟩ := Place.exists_of_number number
  rw [place.ofDayNumber_number, place.dayNumber_date]

/-- Every day number leads to a date of the calendar. -/
theorem ofDayNumber_exists (number : Int) : (ofDayNumber number).Exists := by
  obtain ⟨place, rfl⟩ := Place.exists_of_number number
  rw [place.ofDayNumber_number]
  exact place.date_exists

private theorem ofDayNumber_dayNumber {date : Date} (isThere : date.Exists) :
    ofDayNumber date.dayNumber = date := by
  obtain ⟨place, rfl⟩ := Place.exists_of_date isThere
  rw [place.dayNumber_date, place.ofDayNumber_number]

/-! ## The following day -/

theorem monthLength_range (year : Int) (month : Nat) :
    1 ≤ monthLength year month ∧ monthLength year month ≤ 31 := by
  unfold monthLength
  split
  · split <;> decide
  · split <;> decide

private theorem next_exists {date : Date} (isThere : date.Exists) : date.next.Exists := by
  obtain ⟨months, days⟩ := isThere
  unfold next
  by_cases last : date.isLastOfMonth = true
  · rw [if_pos last]
    by_cases december : date.month = 12
    · rw [if_pos december]
      exact ⟨⟨Nat.le_refl 1, Nat.le_add_left 1 11⟩, Nat.le_refl 1, (monthLength_range _ _).1⟩
    · rw [if_neg december]
      refine ⟨?_, Nat.le_refl 1, (monthLength_range _ _).1⟩
      dsimp only
      omega
  · rw [if_neg last]
    rw [isLastOfMonth, beq_iff_eq] at last
    refine ⟨months, ?_⟩
    dsimp only
    omega

private theorem daysBeforeYear_succ (year : Int) :
    daysBeforeYear (year + 1) =
      daysBeforeYear year + if isLeapYear (year + 1) then 366 else 365 := by
  have leap_iff : isLeapYear (year + 1) = true ↔
      (year + 1) % 4 = 0 ∧ ((year + 1) % 100 ≠ 0 ∨ (year + 1) % 400 = 0) := by
    simp only [isLeapYear, Bool.and_eq_true, Bool.or_eq_true, beq_iff_eq, bne_iff_ne, ne_eq]
  unfold daysBeforeYear
  by_cases leap : isLeapYear (year + 1) = true
  · rw [if_pos leap]
    rw [leap_iff] at leap
    omega
  · rw [if_neg leap]
    rw [leap_iff] at leap
    omega

private theorem dayNumber_next {date : Date} (isThere : date.Exists) :
    date.next.dayNumber = date.dayNumber + 1 := by
  obtain ⟨year, month, day⟩ := date
  obtain ⟨low, high⟩ := isThere.month
  dsimp only at low high
  by_cases last : day = monthLength year month
  · subst last
    simp only [next, isLastOfMonth, beq_self_eq_true, if_true]
    by_cases february : month = 2
    · -- The first of March begins another year of March.
      subst february
      have yearPassed := daysBeforeYear_succ (year - 1)
      rw [Int.sub_add_cancel] at yearPassed
      by_cases leap : isLeapYear year = true
      · simp [dayNumber, monthLength, daysBeforeMonth, leap] at yearPassed ⊢
        omega
      · simp [dayNumber, monthLength, daysBeforeMonth, leap] at yearPassed ⊢
        omega
    · interval_cases month <;>
        simp [dayNumber, monthLength, daysBeforeMonth] at february ⊢ <;> omega
  · simp [next, isLastOfMonth, last, dayNumber]
    omega

/-- The next number is that of the next date. -/
theorem ofDayNumber_succ (number : Int) :
    ofDayNumber (number + 1) = (ofDayNumber number).next := by
  have isThere := ofDayNumber_exists number
  have following := dayNumber_next isThere
  rw [dayNumber_ofDayNumber] at following
  rw [← following, ofDayNumber_dayNumber (next_exists isThere)]

end Date

end ScriptedSql
