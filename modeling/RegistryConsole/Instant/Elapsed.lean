import RegistryConsole.Instant.Basic
import RegistryConsole.Text.Numeral
/-!
# Relative times

How long ago an instant was, in English. The unit is the largest that the elapsed time exceeds,
and the count is the nearest whole number of units. Months have 31 days and years twelve months.
-/
namespace RegistryConsole.Instant

inductive TimeUnit where
  | second
  | minute
  | hour
  | day
  | month
  | year
  deriving DecidableEq, Repr

def TimeUnit.millis : TimeUnit → Nat
  | .second => 1000
  | .minute => 60 * 1000
  | .hour => 60 * 60 * 1000
  | .day => 24 * 60 * 60 * 1000
  | .month => 31 * 24 * 60 * 60 * 1000
  | .year => 12 * 31 * 24 * 60 * 60 * 1000

def TimeUnit.name : TimeUnit → String
  | .second => "second"
  | .minute => "minute"
  | .hour => "hour"
  | .day => "day"
  | .month => "month"
  | .year => "year"

/-- The largest unit that a time exceeds, seconds if there is none. -/
def TimeUnit.largestBelow (millis : Int) : TimeUnit :=
  if (TimeUnit.year.millis : Int) < millis then .year
  else if (TimeUnit.month.millis : Int) < millis then .month
  else if (TimeUnit.day.millis : Int) < millis then .day
  else if (TimeUnit.hour.millis : Int) < millis then .hour
  else if (TimeUnit.minute.millis : Int) < millis then .minute
  else .second

/-- The nearest whole quotient; a half goes away from zero. -/
def nearestQuotient (n : Int) (d : Nat) : Int :=
  let magnitude : Nat := (2 * n.natAbs + d) / (2 * d)
  if n < 0 then -magnitude else magnitude

/-- The text of a count of units; a negative count lies ahead. -/
def relativeText (count : Int) (unit : TimeUnit) : String :=
  match count, unit with
  | 0, .second => "now"
  | 0, unit => "this " ++ unit.name
  | 1, .day => "yesterday"
  | 1, .month => "last month"
  | 1, .year => "last year"
  | 1, unit => "1 " ++ unit.name ++ " ago"
  | count, unit =>
    if count < 0 then
      "in " ++ String.ofList (Text.decimal count.natAbs) ++ " " ++ unit.name ++ "s"
    else String.ofList (Text.decimal count.natAbs) ++ " " ++ unit.name ++ "s ago"

/-- Whole milliseconds of a span, cut off towards zero. -/
def Span.wholeMillis (span : Span) : Int :=
  Int.tdiv span 1000000

/-- How long ago `past` was, seen from `now`. -/
def timeSince (past now : Instant) : String :=
  let millis := Span.wholeMillis (now.since past)
  let unit := TimeUnit.largestBelow millis
  relativeText (nearestQuotient millis unit.millis) unit

end RegistryConsole.Instant
