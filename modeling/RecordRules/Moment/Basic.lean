/-! # Moments

A moment is a count of seconds since 1970-01-01T00:00:00Z and of nanoseconds within the
second.  A leap second is the second before it with a billion nanoseconds more.

* `CivilTime.moment?`   the moment that a date, a time of day and an offset name -/

namespace RecordRules

/-- A moment: seconds since the epoch and nanoseconds, at least `10 ^ 9` in a leap second. -/
structure Moment where
  seconds : Int
  nanos : Nat
  deriving DecidableEq, Repr

namespace Moment

/-- Whole milliseconds since the epoch, rounded down. -/
def millis (t : Moment) : Int :=
  t.seconds * 1000 + t.nanos / 1000000

end Moment

/-- Whether February of a year of the proleptic Gregorian calendar has 29 days. -/
def isLeapYear (year : Int) : Bool :=
  year % 4 = 0 && (year % 100 ≠ 0 || year % 400 = 0)

/-- How many days a month has. -/
def daysInMonth (year : Int) (month : Nat) : Nat :=
  match month with
  | 2 => if isLeapYear year then 29 else 28
  | 4 | 6 | 9 | 11 => 30
  | _ => 31

/-- Days from the epoch to a date, counted in years that begin in March. -/
def daysFromEpoch (year : Int) (month day : Nat) : Int :=
  let y := if month ≤ 2 then year - 1 else year
  let monthFromMarch : Int := if month ≤ 2 then month + 9 else month - 3
  let dayOfYear := (153 * monthFromMarch + 2) / 5 + day - 1
  365 * y + y / 4 - y / 100 + y / 400 + dayOfYear - 719468

/-- The day of the week of a day counted from the epoch; Monday is zero. -/
def weekdayOfDays (days : Int) : Nat :=
  ((days + 3) % 7).toNat

/-- A date, a time of day and an offset from UTC in seconds, as they are written. -/
structure CivilTime where
  year : Int
  month : Nat
  day : Nat
  hour : Nat
  minute : Nat
  second : Nat
  nanos : Nat
  offset : Int
  deriving DecidableEq, Repr

namespace CivilTime

/-- The years that a date may have. -/
def yearInRange (year : Int) : Bool :=
  -262143 ≤ year && year ≤ 262142

/-- The parts name a day of the calendar and a time of day; second 60 is a leap second. -/
def isValid (c : CivilTime) : Bool :=
  yearInRange c.year && 1 ≤ c.month && c.month ≤ 12 && 1 ≤ c.day &&
    c.day ≤ daysInMonth c.year c.month && c.hour ≤ 23 && c.minute ≤ 59 && c.second ≤ 60 &&
    c.nanos < 1000000000

/-- The day counted from the epoch. -/
def days (c : CivilTime) : Int :=
  daysFromEpoch c.year c.month c.day

/-- The moment named, if the parts name one and it lies within the years of the calendar. -/
def moment? (c : CivilTime) : Option Moment :=
  if c.isValid then
    let leap := c.second = 60
    let secondOfDay : Int := c.hour * 3600 + c.minute * 60 + (if leap then 59 else c.second)
    let seconds := c.days * 86400 + secondOfDay - c.offset
    let first := daysFromEpoch (-262143) 1 1 * 86400
    let last := daysFromEpoch 262143 1 1 * 86400
    if first ≤ seconds ∧ seconds < last then
      some ⟨seconds, c.nanos + if leap then 1000000000 else 0⟩
    else none
  else none

end CivilTime
end RecordRules
