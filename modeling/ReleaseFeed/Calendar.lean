import ReleaseFeed.Text.Digits

/-!
# Civil dates and times of day

Dates of the proleptic Gregorian calendar, counted in days from 1970-01-01, and wall-clock readings
that join a date with a time of day.  `Date.dayNumber` counts days through 400-year cycles that start
on the first of March, so that the leap day is the last day of a cycle year; `Date.ofDayNumber` undoes
it.

Calendars are a library's matter, and that library is not part of this project.  The definitions follow
what it documents:

* the range: the calendar holds the days from 1 January of the year -262143 to 31 December of the year
  262142, and a day outside has no date (`Date.inCalendar`);
* the day count: leap years are those of the Gregorian calendar at all times, the year before 1 is the
  year 0, and each day has 86400 seconds (`Date.dayNumber`, `WallClock.micros`);
* leap seconds: they are told from the second before by their nanoseconds, and written as second 60
  (`TimeOfDay.clockText`);
* the formats: a year has at least four digits, and a sign where it is outside 0 to 9999; a fraction of a
  second has no digit, three, six or nine of them (`Date.text`, `TimeOfDay.text`).
-/
namespace ReleaseFeed

/-- A day of the proleptic Gregorian calendar. -/
structure Date where
  year : Int
  month : Nat
  day : Nat
deriving DecidableEq, Repr, Inhabited

/-- A time of day.  A leap second is written as second 59 with `nanos` at `10^9` or above. -/
structure TimeOfDay where
  hour : Nat
  minute : Nat
  second : Nat
  nanos : Nat
deriving DecidableEq, Repr, Inhabited

/-- What a wall clock with a calendar shows, in no particular time zone. -/
structure WallClock where
  date : Date
  time : TimeOfDay
deriving DecidableEq, Repr, Inhabited

namespace Date

/-- The first and the last year of the calendar. -/
def minYear : Int := -262143

/-- The last year of the calendar. -/
def maxYear : Int := 262142

/-- 1970-01-01, day number zero. -/
def epoch : Date := ⟨1970, 1, 1⟩

/-- Days in a 400-year cycle. -/
def cycleDays : Int := 146097

/-- Days from 0000-03-01 to 1970-01-01. -/
def epochShift : Int := 719468

/-- Days from 1970-01-01 to `d`. -/
def dayNumber (d : Date) : Int :=
  let year := if d.month ≤ 2 then d.year - 1 else d.year
  let cycle := year / 400
  let yearOfCycle := year % 400
  let monthFromMarch : Int := ((d.month + 9) % 12 : Nat)
  let dayOfYear := (153 * monthFromMarch + 2) / 5 + d.day - 1
  cycle * cycleDays + (yearOfCycle * 365 + yearOfCycle / 4 - yearOfCycle / 100 + dayOfYear) - epochShift

/-- The date `n` days after 1970-01-01. -/
def ofDayNumber (n : Int) : Date :=
  let shifted := n + epochShift
  let cycle := shifted / cycleDays
  let dayOfCycle := shifted % cycleDays
  let yearOfCycle := (dayOfCycle - dayOfCycle / 1460 + dayOfCycle / 36524 - dayOfCycle / 146096) / 365
  let dayOfYear := dayOfCycle - (365 * yearOfCycle + yearOfCycle / 4 - yearOfCycle / 100)
  let monthFromMarch := (5 * dayOfYear + 2) / 153
  let day := dayOfYear - (153 * monthFromMarch + 2) / 5 + 1
  let month := if monthFromMarch < 10 then monthFromMarch + 3 else monthFromMarch - 9
  let year := yearOfCycle + cycle * 400 + (if month ≤ 2 then 1 else 0)
  ⟨year, month.toNat, day.toNat⟩

/-- `n` is the number of a day that the calendar holds. -/
def inCalendar (n : Int) : Bool :=
  decide ((Date.mk minYear 1 1).dayNumber ≤ n) && decide (n ≤ (Date.mk maxYear 12 31).dayNumber)

/-- The year with four digits; a year outside 0 to 9999 carries its sign. -/
def yearText (year : Int) : String :=
  if 0 ≤ year ∧ year ≤ 9999 then Text.padded 4 year.natAbs
  else (if year < 0 then "-" else "+") ++ Text.padded 4 year.natAbs

/-- Year, month and day, joined by hyphens. -/
def text (d : Date) : String :=
  yearText d.year ++ "-" ++ Text.padded 2 d.month ++ "-" ++ Text.padded 2 d.day

end Date

namespace TimeOfDay

/-- The start of a day. -/
def midnight : TimeOfDay := ⟨0, 0, 0, 0⟩

/-- Hours, minutes and whole seconds; a leap second is second 60. -/
def clockText (t : TimeOfDay) : String :=
  let second := if t.nanos < 1_000_000_000 then t.second else t.second + 1
  Text.padded 2 t.hour ++ ":" ++ Text.padded 2 t.minute ++ ":" ++ Text.padded 2 second

/-- The time with as many groups of three fraction digits as it needs. -/
def text (t : TimeOfDay) : String :=
  let nanos := t.nanos % 1_000_000_000
  let fraction :=
    if nanos = 0 then ""
    else if nanos % 1_000_000 = 0 then "." ++ Text.padded 3 (nanos / 1_000_000)
    else if nanos % 1000 = 0 then "." ++ Text.padded 6 (nanos / 1000)
    else "." ++ Text.padded 9 nanos
  t.clockText ++ fraction

end TimeOfDay

namespace WallClock

/-- Microseconds in a day. -/
def dayMicros : Nat := 86400 * 1_000_000

/-- Microseconds from 1970-01-01T00:00:00 to the reading, a nanosecond part cut off. -/
def micros (w : WallClock) : Int :=
  w.date.dayNumber * dayMicros
    + ((w.time.hour * 3600 + w.time.minute * 60 + w.time.second) * 1_000_000 + w.time.nanos / 1000 : Nat)

/-- The reading `m` microseconds after 1970-01-01T00:00:00, if the calendar holds its day. -/
def ofMicros? (m : Int) : Option WallClock :=
  let day := m / dayMicros
  if Date.inCalendar day then
    let rest := (m % dayMicros).toNat
    let second := rest / 1_000_000
    some ⟨Date.ofDayNumber day,
      ⟨second / 3600, second / 60 % 60, second % 60, rest % 1_000_000 * 1000⟩⟩
  else
    none

end WallClock

end ReleaseFeed
