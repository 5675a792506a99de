/-!
# Shortest decimals

The decimal with the fewest digits that rounds to a given double, and of those the one nearest
to it. A double is taken apart into a whole significand and a power of two; the numbers that
round to it form an interval, whose ends belong to it exactly when the significand is even. On
the grid of decimals with one, two, … seventeen digits only the two neighbours of the value need
a look.
-/
namespace RegistryConsole.Decimal

/-- The value `significand * 2 ^ exponent`. -/
structure Binary where
  significand : Nat
  exponent : Int
  /-- The significand is the least of its binade, so the gap below is half the gap above. -/
  atEdge : Bool
  deriving DecidableEq, Repr

/-- The magnitude of a finite double, from its sixty-four bits. -/
def Binary.ofBits (bits : UInt64) : Binary :=
  let fraction := bits.toNat % Nat.pow 2 52
  let biased : Nat := bits.toNat / Nat.pow 2 52 % Nat.pow 2 11
  if biased = 0 then ⟨fraction, -1074, false⟩
  else ⟨Nat.pow 2 52 + fraction, (biased : Int) - 1075, fraction == 0 && biased != 1⟩

/-- The decimal `digits * 10 ^ exponent`. -/
structure Scaled where
  digits : Nat
  exponent : Int
  deriving DecidableEq, Repr

/-- Drops the zeros at the end of the digits; `fuel` bounds their number. -/
def Scaled.normal : Nat → Scaled → Scaled
  | 0, d => d
  | fuel + 1, d =>
    if d.digits % 10 = 0 && d.digits != 0 then normal fuel ⟨d.digits / 10, d.exponent + 1⟩ else d

private def digitCount (n : Nat) : Nat :=
  (Nat.toDigits 10 n).length

/-- The exponent of the leading digit of a positive quotient. -/
def leadingExponent (num den : Nat) : Int :=
  if den ≤ num then (digitCount (num / den) : Int) - 1
  else - (digitCount ((den + num - 1) / num - 1) : Int)

/-- The interval of reals that round to a double, as numerators over one denominator. -/
structure Interval where
  low : Nat
  value : Nat
  high : Nat
  den : Nat
  closed : Bool

def Binary.interval (b : Binary) : Interval :=
  let scale := Nat.pow 2 (b.exponent - 2).toNat
  let den := Nat.pow 2 (2 - b.exponent).toNat
  { low := (4 * b.significand - (if b.atEdge then 1 else 2)) * scale
    value := 4 * b.significand * scale
    high := (4 * b.significand + 2) * scale
    den
    closed := b.significand % 2 = 0 }

/-- Whether `digits * 10 ^ exponent` lies in the interval. -/
def Interval.holds (i : Interval) (d : Scaled) : Bool :=
  let point := d.digits * Nat.pow 10 d.exponent.toNat * i.den
  let unit := Nat.pow 10 (-d.exponent).toNat
  if i.closed then i.low * unit ≤ point && point ≤ i.high * unit
  else i.low * unit < point && point < i.high * unit

/-- The decimal of the interval nearest to its value on the grid of one exponent, if any. -/
def Interval.onGrid (i : Interval) (exponent : Int) : Option Scaled :=
  let num := i.value * Nat.pow 10 (-exponent).toNat
  let den := i.den * Nat.pow 10 exponent.toNat
  let below : Scaled := ⟨num / den, exponent⟩
  let above : Scaled := ⟨num / den + 1, exponent⟩
  let rest := num % den
  match i.holds below, i.holds above with
  | true, true =>
    if 2 * rest < den || (2 * rest = den && below.digits % 2 = 0) then some below else some above
  | true, false => some below
  | false, true => some above
  | false, false => none

/-- The first grid with a hit, from `width` digits on. -/
def Interval.search (i : Interval) (lead : Int) : Nat → Nat → Scaled
  | 0, _ => ⟨0, 0⟩
  | fuel + 1, width =>
    match i.onGrid (lead - width) with
    | some d => d
    | none => search i lead fuel (width + 1)

/-- The shortest decimal that reads back as the magnitude of a finite double. -/
def shortest (bits : UInt64) : Scaled :=
  let b := Binary.ofBits bits
  if b.significand = 0 then ⟨0, 0⟩
  else
    let i := b.interval
    (i.search (leadingExponent i.value i.den) 18 0).normal 20

end RegistryConsole.Decimal
