import ScriptedSql.Date
import ScriptedSql.Error
import ScriptedSql.Value

/-!
Contract: time stamps in the format of RFC 3339.

Owns:
- the reading of a text into a local date and time with an offset, left to
  right, with the first thing that is wrong;
- the ranges of the components, which are checked after the whole text was read,
  but for those of the offset;
- the instant of a local time, in microseconds, and the value it makes.
-/

namespace ScriptedSql

namespace Timestamp

inductive Component where
  | year
  | month
  | day
  | separator
  | hour
  | minute
  | second
  | subsecond
  | offsetHour
  | offsetMinute
deriving DecidableEq, Repr

namespace Component

def name : Component → String
  | .year => "year"
  | .month => "month"
  | .day => "day"
  | .separator => "separator"
  | .hour => "hour"
  | .minute => "minute"
  | .second => "second"
  | .subsecond => "subsecond"
  | .offsetHour => "offset hour"
  | .offsetMinute => "offset minute"

end Component

/-- What is wrong with a text: a part is not there, a mark between parts is not
there, something follows, or a part is out of its range. -/
inductive Fault where
  | missing (component : Component)
  | mark
  | trailing
  | range (component : Component)
deriving DecidableEq, Repr

namespace Fault

def message : Fault → String
  | .missing component => "the '" ++ component.name ++ "' component could not be parsed"
  | .mark => "a character literal was not valid"
  | .trailing => "unexpected trailing characters; the end of input was expected"
  | .range component => component.name ++ " was not in range"

end Fault

/-- A date and a time of day at a place that is `offset` minutes ahead of UTC. -/
structure LocalTime where
  date : Date
  hour : Nat
  minute : Nat
  second : Nat
  nanosecond : Nat
  offset : Int
deriving DecidableEq, Repr

/-- The number that exactly `count` digits denote, on top of `number`. -/
def takeNumber? (number : Nat) : (count : Nat) → List Char → Option (Nat × List Char)
  | 0, text => some (number, text)
  | _ + 1, [] => none
  | count + 1, character :: rest =>
    match Text.digitValue? character with
    | none => none
    | some digit => takeNumber? (number * 10 + digit) count rest

def readNumber (component : Component) (count : Nat) (text : List Char) :
    Except Fault (Nat × List Char) :=
  match takeNumber? 0 count text with
  | some found => .ok found
  | none => .error (.missing component)

/-- Read a month, which is no number if it is zero. -/
def readMonth (text : List Char) : Except Fault (Nat × List Char) := do
  let (month, text) ← readNumber .month 2 text
  if month = 0 then throw (.missing .month) else return (month, text)

def readMark (mark : Char) : List Char → Except Fault (List Char)
  | character :: rest => if character = mark then .ok rest else .error .mark
  | [] => .error .mark

/-- Skip the separator of date and time. It is any one byte; a character of more
bytes leaves behind something that begins no hour. -/
def readSeparator : List Char → Except Fault (List Char)
  | [] => .error (.missing .separator)
  | character :: rest =>
    if character.toNat < 128 then .ok rest else .error (.missing .hour)

/-- The nanoseconds that the digits behind the point denote; those past the ninth
do not count. -/
def nanosecondsOf (digits : List Nat) : Nat :=
  Text.numberOf 10 ((digits ++ List.replicate 9 0).take 9)

/-- Read the fraction of a second, if there is one. -/
def readFraction : List Char → Except Fault (Nat × List Char)
  | '.' :: rest =>
    match Text.spanDigits rest with
    | ([], _) => .error (.missing .subsecond)
    | (digits, after) => .ok (nanosecondsOf digits, after)
  | text => .ok (0, text)

def readOffsetParts (text : List Char) : Except Fault (Nat × List Char) := do
  let (hour, text) ← readNumber .offsetHour 2 text
  if 23 < hour then throw (.missing .offsetHour)
  let text ← readMark ':' text
  let (minute, text) ← readNumber .offsetMinute 2 text
  if 59 < minute then throw (.range .offsetMinute)
  return (hour * 60 + minute, text)

def readOffset : List Char → Except Fault (Int × List Char)
  | [] => .error (.missing .offsetHour)
  | character :: rest =>
    if character = 'Z' ∨ character = 'z' then .ok (0, rest)
    else if character = '+' then do
      let (minutes, after) ← readOffsetParts rest
      return (minutes, after)
    else if character = '-' then do
      let (minutes, after) ← readOffsetParts rest
      return (-minutes, after)
    else .error (.missing .offsetHour)

def readLocalTime (text : List Char) : Except Fault LocalTime := do
  let (year, text) ← readNumber .year 4 text
  let text ← readMark '-' text
  let (month, text) ← readMonth text
  let text ← readMark '-' text
  let (day, text) ← readNumber .day 2 text
  let text ← readSeparator text
  let (hour, text) ← readNumber .hour 2 text
  let text ← readMark ':' text
  let (minute, text) ← readNumber .minute 2 text
  let text ← readMark ':' text
  let (second, text) ← readNumber .second 2 text
  let (nanosecond, text) ← readFraction text
  let (offset, text) ← readOffset text
  if text.isEmpty then return ⟨⟨year, month, day⟩, hour, minute, second, nanosecond, offset⟩
  else throw .trailing

namespace LocalTime

/-- The seconds between the start of 1970 in UTC and a local time. -/
def utcSeconds (time : LocalTime) : Int :=
  time.date.dayNumber * 86400 + time.hour * 3600 + time.minute * 60 + time.second
    - time.offset * 60

def utcNanoseconds (time : LocalTime) : Int :=
  time.utcSeconds * 1000000000 + time.nanosecond

/-- The microseconds of an instant, with what is left over dropped toward zero. -/
def utcMicroseconds (time : LocalTime) : Int :=
  time.utcNanoseconds.tdiv 1000

/-- A leap second stands for the nanosecond before it. -/
def withoutLeapSecond (time : LocalTime) : LocalTime :=
  if time.second = 60 then { time with second := 59, nanosecond := 999999999 } else time

/-- Whether a time falls into the last second of a month in UTC, the only one that a
leap second can follow. -/
def endsMonth (time : LocalTime) : Bool :=
  time.utcSeconds % 86400 == 86399 &&
    (Date.ofDayNumber (time.utcSeconds / 86400)).isLastOfMonth

def outOfRange? (time : LocalTime) : Option Component :=
  if time.date.month < 1 ∨ 12 < time.date.month then some .month
  else if time.date.day < 1 ∨
      Date.monthLength time.date.year time.date.month < time.date.day then some .day
  else if 23 < time.hour then some .hour
  else if 59 < time.minute then some .minute
  else if 60 < time.second then some .second
  else if time.second = 60 ∧ time.withoutLeapSecond.endsMonth = false then some .second
  else none

end LocalTime

def read (text : List Char) : Except Fault LocalTime := do
  let time ← readLocalTime text
  match time.outOfRange? with
  | some component => throw (.range component)
  | none => return time.withoutLeapSecond

end Timestamp

/-- The value of a text in the format of RFC 3339: an instant in microseconds. Texts
of one instant with different offsets give equal values. -/
def Value.ofTimestamp (text : String) : Except Error Value :=
  match Timestamp.read text.toList with
  | .error fault =>
    .error (.type ⟨"RFC 3339 timestamp", Text.quoted text ++ " (" ++ fault.message ++ ")", none⟩)
  | .ok instant =>
    let microseconds := instant.utcMicroseconds
    if -9223372036854775808 ≤ microseconds ∧ microseconds ≤ 9223372036854775807 then
      .ok (.timestampTz (Int64.ofInt microseconds))
    else
      .error (.type ⟨"timestamp within i64 microseconds", text, none⟩)

end ScriptedSql
