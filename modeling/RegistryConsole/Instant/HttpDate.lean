import RegistryConsole.Instant.Basic
import RegistryConsole.Text.Numeral
/-!
# Dates of HTTP

A point of time down to the second, in the form that headers use.
-/
namespace RegistryConsole.Instant

open Text

def weekdays : List String :=
  ["Sun", "Mon", "Tue", "Wed", "Thu", "Fri", "Sat"]

def months : List String :=
  ["Jan", "Feb", "Mar", "Apr", "May", "Jun", "Jul", "Aug", "Sep", "Oct", "Nov", "Dec"]

/-- The day of the week, counted from Sunday; the first of January 1970 was a Thursday. -/
def weekday (t : Instant) : Nat :=
  ((t.day + 4) % 7).toNat

def httpDate (t : Instant) : String :=
  let date := Date.ofDayNumber t.day
  let clock := t.secondOfDay
  weekdays.getD t.weekday "" ++ ", " ++ String.ofList (decimalPadded 2 date.day) ++ " " ++
    months.getD (date.month - 1) "" ++ " " ++ String.ofList (decimalPadded 4 date.year.toNat) ++
    " " ++ String.ofList (decimalPadded 2 (clock / 3600)) ++
    ":" ++ String.ofList (decimalPadded 2 (clock / 60 % 60)) ++
    ":" ++ String.ofList (decimalPadded 2 (clock % 60)) ++ " GMT"

end RegistryConsole.Instant
