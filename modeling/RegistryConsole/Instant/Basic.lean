/-!
# Instants

Points of time on the civil calendar in UTC. An instant counts seconds since 1970 and carries the
nanoseconds after that second; a leap second is the second before it with a thousand million
nanoseconds more, so the order of instants is the order of these pairs.
-/
namespace RegistryConsole

structure Instant where
  seconds : Int
  nanos : Nat
  deriving DecidableEq, Repr, Inhabited

namespace Instant

def second : Nat := 1000000000

def secondsPerDay : Int := 86400

/-- A length of time, down to the nanosecond. -/
abbrev Span := Int

def Span.ofSeconds (n : Int) : Span := n * second

def Span.ofMillis (n : Int) : Span := n * 1000000

/-- A date of the proleptic Gregorian calendar. -/
structure Date where
  year : Int
  month : Nat
  day : Nat
  deriving DecidableEq, Repr

def isLeapYear (year : Int) : Bool :=
  year % 4 = 0 && (year % 100 != 0 || year % 400 = 0)

def daysInMonth (year : Int) (month : Nat) : Nat :=
  if month = 2 then (if isLeapYear year then 29 else 28)
  else if month = 4 || month = 6 || month = 9 || month = 11 then 30
  else 31

/-- Years that dates can have. -/
def minYear : Int := -262143

def maxYear : Int := 262142

def Date.valid (d : Date) : Bool :=
  minYear ≤ d.year && d.year ≤ maxYear && 1 ≤ d.month && d.month ≤ 12 &&
    1 ≤ d.day && d.day ≤ daysInMonth d.year d.month

/-- Days from the first of January 1970 to a date. Years are counted from March, so the leap day
is the last of its year. -/
def Date.dayNumber (d : Date) : Int :=
  let year := if d.month ≤ 2 then d.year - 1 else d.year
  let era := year / 400
  let yearOfEra := year - era * 400
  let monthFromMarch : Int := ((d.month + 9) % 12 : Nat)
  let dayOfYear := (153 * monthFromMarch + 2) / 5 + d.day - 1
  let dayOfEra := yearOfEra * 365 + yearOfEra / 4 - yearOfEra / 100 + dayOfYear
  era * 146097 + dayOfEra - 719468

/-- The date of a day, counted from the first of January 1970. -/
def Date.ofDayNumber (n : Int) : Date :=
  let z := n + 719468
  let era := z / 146097
  let dayOfEra := z - era * 146097
  let yearOfEra := (dayOfEra - dayOfEra / 1460 + dayOfEra / 36524 - dayOfEra / 146096) / 365
  let dayOfYear := dayOfEra - (365 * yearOfEra + yearOfEra / 4 - yearOfEra / 100)
  let monthFromMarch := (5 * dayOfYear + 2) / 153
  let day := (dayOfYear - (153 * monthFromMarch + 2) / 5 + 1).toNat
  let month := (if monthFromMarch < 10 then monthFromMarch + 3 else monthFromMarch - 9).toNat
  ⟨yearOfEra + era * 400 + (if month ≤ 2 then 1 else 0), month, day⟩

def day (t : Instant) : Int :=
  t.seconds / secondsPerDay

def secondOfDay (t : Instant) : Nat :=
  (t.seconds % secondsPerDay).toNat

def before (a b : Instant) : Bool :=
  a.seconds < b.seconds || (a.seconds = b.seconds && a.nanos < b.nanos)

/-- The instant of a count of nanoseconds since 1970. -/
def ofNanos (total : Int) : Instant :=
  ⟨total / second, (total % second).toNat⟩

/-- The instant a span after another. A leap second is left when a whole second is crossed;
backwards, it counts as the second after the one it extends. -/
def add (t : Instant) (span : Span) : Instant :=
  let whole := span.tdiv second
  let part := span.tmod second
  let total := t.seconds * second + t.nanos + span
  if t.nanos < second then ofNanos total
  else if 0 < whole || (0 < part && 2 * second ≤ t.nanos + part) then ofNanos (total - second)
  else if whole < 0 then ofNanos total
  else ⟨t.seconds, (t.nanos + part).toNat⟩

/-- The span from `b` to `a`. A leap second that lies between them on the clock counts. -/
def since (a b : Instant) : Span :=
  let clock : Int := a.secondOfDay - b.secondOfDay
  let clock :=
    if b.secondOfDay < a.secondOfDay && second ≤ b.nanos then clock + 1
    else if a.secondOfDay < b.secondOfDay && second ≤ a.nanos then clock - 1
    else clock
  (clock + (a.day - b.day) * secondsPerDay) * second + (a.nanos - b.nanos)

end Instant

end RegistryConsole
