import RegistryConsole.Instant.Basic
import RegistryConsole.Text.Blank
import RegistryConsole.Text.Numeral
/-!
# Dates and times of RFC 3339

`Instant.text` writes an instant with the fewest of zero, three, six or nine places of seconds
that lose nothing. `Instant.strict?` reads the same form with any number of places and any
offset. `Instant.lenient` reads more: blanks around the parts, numbers with fewer digits, signed
years of any length, an offset without a colon, and `UTC` for a zero offset.
-/
namespace RegistryConsole.Instant

open Text

/-- How the zero offset is written. -/
inductive Zone where
  | letter
  | numeric

def Zone.text : Zone → List Char
  | .letter => ['Z']
  | .numeric => "+00:00".toList

def yearText (year : Int) : List Char :=
  if 0 ≤ year && year ≤ 9999 then decimalPadded 4 year.toNat
  else
    let digits := decimal year.natAbs
    (if year < 0 then '-' else '+') :: List.replicate (4 - digits.length) '0' ++ digits

def fractionText (nanos : Nat) : List Char :=
  if nanos = 0 then []
  else if nanos % 1000000 = 0 then '.' :: decimalPadded 3 (nanos / 1000000)
  else if nanos % 1000 = 0 then '.' :: decimalPadded 6 (nanos / 1000)
  else '.' :: decimalPadded 9 nanos

def chars (zone : Zone) (t : Instant) : List Char :=
  let date := Date.ofDayNumber t.day
  let clock := t.secondOfDay
  let second := clock % 60 + t.nanos / Instant.second
  yearText date.year ++ '-' :: decimalPadded 2 date.month ++ '-' :: decimalPadded 2 date.day ++
    'T' :: decimalPadded 2 (clock / 3600) ++ ':' :: decimalPadded 2 (clock / 60 % 60) ++
    ':' :: decimalPadded 2 second ++ fractionText (t.nanos % Instant.second) ++ zone.text

def text (zone : Zone) (t : Instant) : String :=
  String.ofList (chars zone t)

/-- Why a text is no date and time. -/
inductive ReadError where
  | invalid
  | tooShort
  | outOfRange
  | trailing
  deriving DecidableEq, Repr

def ReadError.message : ReadError → String
  | .invalid => "input contains invalid characters"
  | .tooShort => "premature end of input"
  | .outOfRange => "input is out of range"
  | .trailing => "trailing input"

/-- The greatest number a reader holds. -/
def numberBound : Nat := Nat.pow 2 63

def numberFrom (acc : Nat) : Nat → List Char → Except ReadError (Nat × List Char)
  | 0, rest => .ok (acc, rest)
  | _ + 1, [] => .ok (acc, [])
  | width + 1, c :: rest =>
    match digitValue? c with
    | none => .ok (acc, c :: rest)
    | some d =>
      if numberBound ≤ acc * 10 + d then .error .outOfRange
      else numberFrom (acc * 10 + d) width rest

/-- The octets a text takes, counted up to a limit. -/
def octetsUpTo : Nat → List Char → Nat
  | 0, _ => 0
  | _, [] => 0
  | limit + 1, c :: rest =>
    let size := c.utf8Size
    size + octetsUpTo (limit + 1 - size) rest
termination_by _ s => s.length

def readNumber (least most : Nat) (s : List Char) : Except ReadError (Nat × List Char) :=
  if octetsUpTo least s < least then .error .tooShort
  else if (s.take least).all (fun c => (digitValue? c).isSome) then numberFrom 0 most s
  else .error .invalid

def readChar (c : Char) : List Char → Except ReadError (List Char)
  | [] => .error .tooShort
  | d :: rest => if d = c then .ok rest else .error .invalid

/-- Digits behind the point, the first nine of which count. -/
def readFraction (s : List Char) : Except ReadError (Nat × List Char) := do
  let (n, rest) ← readNumber 1 9 s
  let width := s.length - rest.length
  return (n * Nat.pow 10 (9 - width), rest.dropWhile fun c => (digitValue? c).isSome)

def readOptionalFraction : List Char → Except ReadError (Nat × List Char)
  | '.' :: rest => readFraction rest
  | s => .ok (0, s)

def skipBlanks (s : List Char) : List Char :=
  s.dropWhile isBlank

/-- Skips what may stand between the hours and the minutes of an offset. -/
inductive OffsetMark where
  | colon
  | anyColonsAndBlanks

def OffsetMark.skip : OffsetMark → List Char → Except ReadError (List Char)
  | .colon, s => readChar ':' s
  | .anyColonsAndBlanks, s => .ok (s.dropWhile fun c => c = ':' || isBlank c)

def readPair : List Char → Except ReadError ((Char × Char) × List Char)
  | a :: b :: rest => .ok ((a, b), rest)
  | [a] => if a.utf8Size < 2 then .error .tooShort else .ok ((a, a), [])
  | [] => .error .tooShort

/-- An offset in seconds: the letter for zero, or a sign, two digits of hours and two of
minutes. -/
def readOffset (mark : OffsetMark) (s : List Char) : Except ReadError (Int × List Char) := do
  match s with
  | 'Z' :: rest | 'z' :: rest => return (0, rest)
  | [] => .error .tooShort
  | sign :: rest =>
    if sign != '+' && sign != '-' && sign != Char.ofNat 0x2212 then .error .invalid
    else
      let ((h1, h2), rest) ← readPair rest
      match digitValue? h1, digitValue? h2 with
      | some tens, some units =>
        let rest ← mark.skip rest
        let ((m1, m2), rest) ← readPair rest
        match digitValue? m1, digitValue? m2 with
        | some minuteTens, some minuteUnits =>
          if 6 ≤ minuteTens then .error .outOfRange
          else
            let offset : Int := (tens * 10 + units) * 3600 + (minuteTens * 10 + minuteUnits) * 60
            return (if sign = '+' then offset else -offset, rest)
        | _, _ => .error .invalid
      | _, _ => .error .invalid

/-- The parts of a date and time as read, each in its own range. -/
structure Parts where
  date : Date
  hour : Nat
  minute : Nat
  second : Nat
  nanos : Nat

/-- The instant of a local date and time at an offset; the sixtieth second is a leap second. -/
def Parts.instant (p : Parts) (offset : Int) : Except ReadError Instant :=
  if !p.date.valid || offset ≤ -secondsPerDay || secondsPerDay ≤ offset then .error .outOfRange
  else
    let leap := p.second = 60
    let second : Nat := if leap then 59 else p.second
    let clock : Int := p.hour * 3600 + p.minute * 60 + second
    .ok ⟨p.date.dayNumber * secondsPerDay + clock - offset,
      if leap then p.nanos + Instant.second else p.nanos⟩

def ranged (low high n : Nat) : Except ReadError Unit :=
  if low ≤ n && n ≤ high then .ok () else .error .outOfRange

/-- Greatest distance from UTC that the strict form allows, in seconds. -/
def greatestOffset : Int := (23 * 60 + 59) * 60

def strictTime (date : Date) (s : List Char) : Except ReadError Instant := do
  let (hour, s) ← readNumber 2 2 s
  ranged 0 23 hour
  let s ← readChar ':' s
  let (minute, s) ← readNumber 2 2 s
  ranged 0 59 minute
  let s ← readChar ':' s
  let (second, s) ← readNumber 2 2 s
  ranged 0 60 second
  let (nanos, s) ← readOptionalFraction s
  let (offset, s) ← readOffset .colon s
  if offset < -greatestOffset || greatestOffset < offset then .error .outOfRange
  else if s.isEmpty then Parts.instant ⟨date, hour, minute, second, nanos⟩ offset
  else .error .trailing

/-- The instant of a text in the strict form. -/
def strict (s : List Char) : Except ReadError Instant := do
  let (year, s) ← readNumber 4 4 s
  let s ← readChar '-' s
  let (month, s) ← readNumber 2 2 s
  ranged 1 12 month
  let s ← readChar '-' s
  let (day, s) ← readNumber 2 2 s
  ranged 1 31 day
  match s with
  | [] => .error .tooShort
  | c :: s =>
    if c = 't' || c = 'T' || c = ' ' then strictTime ⟨year, month, day⟩ s else .error .invalid

def strict? (s : String) : Option Instant :=
  (strict s.toList).toOption

/-- The bound of the years that can be read, in both directions. -/
def yearBound : Nat := Nat.pow 2 31

/-- A year: four digits at most, or any number of them after a sign. -/
def readYear (s : List Char) : Except ReadError (Int × List Char) := do
  let (year, rest) ←
    match skipBlanks s with
    | '-' :: s => (readNumber 1 (s.length + 1) s).map fun (n, rest) => (-(n : Int), rest)
    | '+' :: s => (readNumber 1 (s.length + 1) s).map fun (n, rest) => ((n : Int), rest)
    | s => (readNumber 1 4 s).map fun (n, rest) => ((n : Int), rest)
  if year < -(yearBound : Int) || (yearBound : Int) ≤ year then .error .outOfRange
  else return (year, rest)

/-- One or two digits after blanks, in a range. -/
def readShort (low high : Nat) (s : List Char) : Except ReadError (Nat × List Char) := do
  let (n, rest) ← readNumber 1 2 (skipBlanks s)
  ranged low high n
  return (n, rest)

def lenientOffset (s : List Char) : Except ReadError (Int × List Char) :=
  match s with
  | u :: t :: c :: rest =>
    if u.toUpper = 'U' && t.toUpper = 'T' && c.toUpper = 'C' then .ok (0, rest)
    else readOffset .anyColonsAndBlanks s
  | _ => readOffset .anyColonsAndBlanks s

def lenientTime (date : Date) (s : List Char) : Except ReadError Instant := do
  let (hour, s) ← readShort 0 23 s
  let s ← readChar ':' (skipBlanks s)
  let (minute, s) ← readShort 0 59 s
  let s ← readChar ':' (skipBlanks s)
  let (second, s) ← readShort 0 60 s
  let (nanos, s) ← readOptionalFraction s
  let (offset, s) ← lenientOffset (skipBlanks s)
  if (skipBlanks s).isEmpty then Parts.instant ⟨date, hour, minute, second, nanos⟩ offset
  else .error .trailing

/-- The instant of a text in the lenient form. -/
def lenient (s : List Char) : Except ReadError Instant := do
  let (year, s) ← readYear s
  let s ← readChar '-' (skipBlanks s)
  let (month, s) ← readShort 1 12 s
  let s ← readChar '-' (skipBlanks s)
  let (day, s) ← readShort 1 31 s
  match s with
  | [] => .error .tooShort
  | c :: s =>
    if c = 't' || c = 'T' || c = ' ' then lenientTime ⟨year, month, day⟩ s else .error .invalid

end RegistryConsole.Instant
