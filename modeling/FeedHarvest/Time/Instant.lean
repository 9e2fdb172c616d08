/-!
# Instants and the calendar

An instant counts seconds and nanoseconds since the start of 1970 in UTC. A leap second has no count
of its own: it is the last second of its minute with a billion nanoseconds or more.

Dates are those of the Gregorian calendar extended in both directions, with a year zero. A date is
turned into a day number by counting from the first of March, so that the day that comes and goes is
the last of its year.
-/

namespace FeedHarvest.Time

/-- A date of the extended Gregorian calendar. -/
structure Date where
  year : Int
  /-- From 1 to 12. -/
  month : Nat
  /-- From 1 to the length of the month. -/
  day : Nat
deriving DecidableEq, Repr, Inhabited

namespace Date

/-- Whether the year has a 29th of February. -/
def isLeap (year : Int) : Bool := year % 4 == 0 && (year % 100 != 0 || year % 400 == 0)

def monthLength (year : Int) (month : Nat) : Nat :=
  if month = 2 then (if isLeap year then 29 else 28)
  else if month = 4 ∨ month = 6 ∨ month = 9 ∨ month = 11 then 30
  else 31

def minYear : Int := -262143

def maxYear : Int := 262142

/-- Whether the parts name a day of the calendar within the years allowed. -/
def isValid (d : Date) : Bool :=
  minYear ≤ d.year && d.year ≤ maxYear && 1 ≤ d.month && d.month ≤ 12 && 1 ≤ d.day &&
    d.day ≤ monthLength d.year d.month

/-- The days from the first of January 1970 to the date. -/
def toDays (d : Date) : Int :=
  let y := if d.month ≤ 2 then d.year - 1 else d.year
  let era := y / 400
  let yearOfEra := y % 400
  let monthFromMarch : Int := ((d.month + 9) % 12 : Nat)
  let dayOfYear := (153 * monthFromMarch + 2) / 5 + d.day - 1
  era * 146097 + (yearOfEra * 365 + yearOfEra / 4 - yearOfEra / 100 + dayOfYear) - 719468

/-- The date so many days after the first of January 1970. -/
def ofDays (n : Int) : Date :=
  let z := n + 719468
  let era := z / 146097
  let dayOfEra := z % 146097
  let yearOfEra :=
    (dayOfEra - dayOfEra / 1460 + dayOfEra / 36524 - dayOfEra / 146096) / 365
  let dayOfYear := dayOfEra - (365 * yearOfEra + yearOfEra / 4 - yearOfEra / 100)
  let monthFromMarch := (5 * dayOfYear + 2) / 153
  let day := dayOfYear - (153 * monthFromMarch + 2) / 5 + 1
  let month := if monthFromMarch < 10 then monthFromMarch + 3 else monthFromMarch - 9
  let year := yearOfEra + era * 400 + (if month ≤ 2 then 1 else 0)
  ⟨year, month.toNat, day.toNat⟩

end Date

def nanosPerSecond : Nat := 1000000000

/-- A point in time. -/
structure Instant where
  /-- Seconds since the start of 1970, not counting leap seconds. -/
  seconds : Int
  /-- Nanoseconds into that second, a billion more in a leap second. -/
  nanos : Nat
deriving DecidableEq, Repr, Inhabited

namespace Instant

def date (t : Instant) : Date := Date.ofDays (t.seconds / 86400)

def secondOfDay (t : Instant) : Nat := (t.seconds % 86400).toNat

/-- Whether the instant lies in a leap second. -/
def isLeapSecond (t : Instant) : Bool := nanosPerSecond ≤ t.nanos

/-- The nanoseconds into the second on the clock, be it a leap second or not. -/
def fraction (t : Instant) : Nat := if t.isLeapSecond then t.nanos - nanosPerSecond else t.nanos

/-- The seconds on the clock, 60 in a leap second. -/
def clockSecond (t : Instant) : Nat :=
  t.secondOfDay % 60 + (if t.isLeapSecond then 1 else 0)

/-- Whether the instant can be named: its date is one of the calendar's, and only the last second of
a minute is followed by a leap second. -/
def isValid (t : Instant) : Bool :=
  t.date.isValid && t.nanos < 2 * nanosPerSecond &&
    (!t.isLeapSecond || t.seconds % 60 == 59)

/-- The whole milliseconds up to the instant, a leap second's counted after those of the second
before it. -/
def millis (t : Instant) : Int × Nat := (t.seconds, t.nanos / 1000000)

end Instant

end FeedHarvest.Time
