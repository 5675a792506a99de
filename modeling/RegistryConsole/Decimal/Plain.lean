import RegistryConsole.Decimal.Shortest
import RegistryConsole.Text.Numeral
/-!
# Plain decimals

Doubles without exponents. `plain` writes the fewest digits that read back, all places in full;
`float?` reads a decimal with an optional exponent, or a name of a value that has no digits.
-/
namespace RegistryConsole.Decimal

open Text

/-- The digits of a decimal with its point, and zeros where it has no digits. -/
def Scaled.plain (d : Scaled) : List Char :=
  let digits := decimal d.digits
  let places := (-d.exponent).toNat
  if d.digits = 0 then ['0']
  else if 0 ≤ d.exponent then digits ++ List.replicate d.exponent.toNat '0'
  else if places < digits.length then
    digits.take (digits.length - places) ++ '.' :: digits.drop (digits.length - places)
  else '0' :: '.' :: List.replicate (places - digits.length) '0' ++ digits

def plain (x : Float) : List Char :=
  let sign := if Nat.pow 2 63 ≤ x.toBits.toNat then ['-'] else []
  if x.isNaN then "NaN".toList
  else if x.isInf then sign ++ "inf".toList
  else sign ++ (shortest x.toBits).plain

def pointed (x : Float) : List Char :=
  let text := plain x
  if x.isNaN || x.isInf || text.contains '.' then text else text ++ ['.', '0']

private def isDigit (c : Char) : Bool :=
  (digitValue? c).isSome

/-- An exponent of ten with an optional sign. -/
def exponent? : List Char → Option Int
  | '-' :: digits => (natural? digits).map fun n => -(n : Int)
  | digits => (natural? (dropPlus digits)).map fun n => (n : Int)

/-- The exponent behind a significand: none written counts as zero. -/
def tailExponent? : List Char → Option Int
  | [] => some 0
  | c :: rest => if c = 'e' || c = 'E' then exponent? rest else none

/-- Greatest and least power of ten with a double other than zero and infinity. -/
private def powerLimit : Int := 400

/-- The double nearest to `digits * 10 ^ exponent`. -/
def nearest (digits : Nat) (exponent : Int) : Float :=
  let lead := (decimal digits).length + exponent
  if digits = 0 || lead < -powerLimit then 0
  else if powerLimit < lead then 1 / 0
  else Float.ofScientific digits (exponent < 0) exponent.natAbs

/-- A decimal without its sign: digits, of which some may stand behind a point. -/
def magnitude? (s : List Char) : Option Float :=
  let whole := s.takeWhile isDigit
  let rest := s.dropWhile isDigit
  let (fraction, rest) :=
    match rest with
    | '.' :: rest => (rest.takeWhile isDigit, rest.dropWhile isDigit)
    | rest => ([], rest)
  if whole.isEmpty && fraction.isEmpty then none
  else do
    let digits ← natural? (whole ++ fraction)
    let exponent ← tailExponent? rest
    return nearest digits (exponent - fraction.length)

/-- The values that are written in letters. -/
def named? (s : List Char) : Option Float :=
  let s := s.map Char.toLower
  if s = "inf".toList || s = "infinity".toList then some (1 / 0)
  else if s = "nan".toList then some (0 / 0)
  else none

def unsigned? (s : List Char) : Option Float :=
  (named? s).or (magnitude? s)

def float? : List Char → Option Float
  | '-' :: s => (unsigned? s).map fun x => -x
  | '+' :: s => unsigned? s
  | s => unsigned? s

end RegistryConsole.Decimal
