import TaskEndpoints.Calendar.Date
import TaskEndpoints.Number.Decimal

/-!
# Moments and published times

A moment is a date and a time of day, with or without an offset from universal time. Published times
are universal, end in `Z`, and exist for the years 1 to 9999 only.

## Implementation notes

Moments are compared and shifted through their local clock, the count of microseconds from the start
of the year 1. The year is written without padding; all other fields have two digits.
-/

namespace TaskEndpoints

/-- A moment on the calendar; a missing offset leaves the zone open. -/
structure Moment where
  date : Date
  hour : Nat
  minute : Nat
  second : Nat
  micro : Nat
  /-- Seconds by which the local clock is ahead of universal time. -/
  offset : Option Int
deriving DecidableEq, Repr

/-- Why a moment or a published time does not exist. -/
inductive CalendarError where
  /-- The year is outside 1 to 9999. -/
  | yearOutOfRange (year : Int)
  /-- The year does not fit the fields of a broken-down time. -/
  | yearTooLarge
  /-- The count of seconds does not fit sixty-four bits. -/
  | secondsTooLarge
  /-- A shifted moment leaves the years 1 to 9999. -/
  | dateOutOfRange
  /-- A span of this many days is too long. -/
  | spanTooLong (days : Int)
  /-- A span has more days than fit thirty-two bits. -/
  | spanTooLarge
  | spanInfinite
  | spanUndefined
deriving DecidableEq, Repr

/-- The wording of each cause. -/
def CalendarError.message : CalendarError → String
  | .yearOutOfRange year => "year " ++ intText year ++ " is out of range"
  | .yearTooLarge => "[Errno 75] Value too large for defined data type"
  | .secondsTooLarge => "timestamp out of range for platform time_t"
  | .dateOutOfRange => "date value out of range"
  | .spanTooLong days => "days=" ++ intText days ++ "; must have magnitude <= 999999999"
  | .spanTooLarge => "Python int too large to convert to C int"
  | .spanInfinite => "cannot convert float infinity to integer"
  | .spanUndefined => "cannot convert float NaN to integer"

/-- The number of microseconds in a second. -/
def microsPerSecond : Int := 1000000

/-- The number of seconds in a day. -/
def secondsPerDay : Int := 86400

/-- The seconds of the local clock at the start of the Unix epoch. -/
def epochClock : Int := epochDay * secondsPerDay

/-- A date and time of day to the second. -/
structure ClockReading where
  date : Date
  hour : Nat
  minute : Nat
  second : Nat
deriving DecidableEq, Repr

/-- What a clock shows that has counted the given seconds from the start of the year 1. -/
def ClockReading.ofSeconds (seconds : Int) : ClockReading :=
  let ofDay := (seconds % secondsPerDay).toNat
  ⟨Date.ofDayNumber (seconds / secondsPerDay), ofDay / 3600, ofDay / 60 % 60, ofDay % 60⟩

/-- The seconds that a clock has counted when it shows a reading. -/
def ClockReading.toSeconds (r : ClockReading) : Int :=
  r.date.dayNumber * secondsPerDay + ((r.hour * 60 + r.minute) * 60 + r.second : Nat)

/-- Decide whether a year may be published. -/
def yearExists (year : Int) : Bool := 1 ≤ year && year ≤ 9999

namespace Moment

/-- The microseconds that the local clock counts from the start of the year 1. -/
def localMicros (m : Moment) : Int :=
  (ClockReading.mk m.date m.hour m.minute m.second).toSeconds * microsPerSecond + m.micro

/-- The microseconds of universal time; an open zone counts as universal. -/
def universalMicros (m : Moment) : Int :=
  m.localMicros - m.offset.getD 0 * microsPerSecond

/-- The moment whose local clock shows the given microseconds, if its year exists. -/
def ofLocalMicros (micros : Int) (offset : Option Int) : Except CalendarError Moment :=
  let r := ClockReading.ofSeconds (micros / microsPerSecond)
  if yearExists r.date.year then
    .ok ⟨r.date, r.hour, r.minute, r.second, (micros % microsPerSecond).toNat, offset⟩
  else .error .dateOutOfRange

/-- The moment a number of microseconds later on the same local clock. -/
def shift (m : Moment) (micros : Int) : Except CalendarError Moment :=
  ofLocalMicros (m.localMicros + micros) m.offset

end Moment

/-- Two digits of a time field. -/
def twoDigits (n : Nat) : List Char := padZeros 2 (decimalDigits n)

/-- The text of a universal time. -/
def ClockReading.text (r : ClockReading) : String :=
  String.ofList <|
    (intText r.date.year).toList ++ '-' :: twoDigits r.date.month ++ '-' :: twoDigits r.date.day
      ++ 'T' :: twoDigits r.hour ++ ':' :: twoDigits r.minute ++ ':' :: twoDigits r.second ++ ['Z']

/-- The published time of a count of seconds from the Unix epoch. -/
def unixTimeText (seconds : Int) : Except CalendarError String :=
  if seconds < -0x8000000000000000 || 0x8000000000000000 ≤ seconds then .error .secondsTooLarge
  else
    let reading := ClockReading.ofSeconds (epochClock + seconds)
    let year := reading.date.year
    if year - 1900 < -0x80000000 || 0x80000000 ≤ year - 1900 then .error .yearTooLarge
    else if yearExists year then .ok reading.text
    else .error (.yearOutOfRange year)

/-- The published time of a moment; an open zone counts as universal, and microseconds are dropped. -/
def Moment.universalText (m : Moment) : Except CalendarError String :=
  let reading := ClockReading.ofSeconds (m.universalMicros / microsPerSecond)
  if yearExists reading.date.year then .ok reading.text
  else .error .dateOutOfRange

end TaskEndpoints
