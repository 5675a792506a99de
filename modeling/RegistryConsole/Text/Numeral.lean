/-!
# Numerals

Unsigned numbers in decimal and hexadecimal. A numeral to be read may carry one leading plus
sign, as bounded readers of unsigned numbers allow.
-/
namespace RegistryConsole.Text

def digitValue? (c : Char) : Option Nat :=
  if '0' ≤ c && c ≤ '9' then some (c.toNat - '0'.toNat) else none

def hexValue? (c : Char) : Option Nat :=
  if '0' ≤ c && c ≤ '9' then some (c.toNat - '0'.toNat)
  else if 'a' ≤ c && c ≤ 'f' then some (c.toNat - 'a'.toNat + 10)
  else if 'A' ≤ c && c ≤ 'F' then some (c.toNat - 'A'.toNat + 10)
  else none

/-- The value of a run of digits, read from the left on top of `acc`. -/
def digitsValue? (value? : Char → Option Nat) (base : Nat) : Nat → List Char → Option Nat
  | acc, [] => some acc
  | acc, c :: rest =>
    match value? c with
    | some d => digitsValue? value? base (acc * base + d) rest
    | none => none

/-- A decimal numeral of at least one digit. -/
def natural? : List Char → Option Nat
  | [] => none
  | s => digitsValue? digitValue? 10 0 s

/-- Drops one plus sign. -/
def dropPlus : List Char → List Char
  | '+' :: rest => rest
  | s => s

/-- A decimal numeral below `bound`, perhaps after a plus sign. -/
def boundedNatural? (bound : Nat) (s : List Char) : Option Nat :=
  (natural? (dropPlus s)).filter (· < bound)

def hexDigit (n : Nat) : Char :=
  if n < 10 then Char.ofNat ('0'.toNat + n) else Char.ofNat ('a'.toNat + n - 10)

def upperHexDigit (n : Nat) : Char :=
  if n < 10 then Char.ofNat ('0'.toNat + n) else Char.ofNat ('A'.toNat + n - 10)

/-- The last `width` hexadecimal digits of a number. -/
def hexPadded : Nat → Nat → List Char
  | 0, _ => []
  | width + 1, n => hexPadded width (n / 16) ++ [hexDigit (n % 16)]

/-- The last `width` decimal digits of a number. -/
def decimalPadded : Nat → Nat → List Char
  | 0, _ => []
  | width + 1, n => decimalPadded width (n / 10) ++ [Char.ofNat ('0'.toNat + n % 10)]

def decimal (n : Nat) : List Char :=
  Nat.toDigits 10 n

/-- A whole number with a minus sign where it is negative. -/
def signedDecimal : Int → List Char
  | .ofNat n => decimal n
  | .negSucc n => '-' :: decimal (n + 1)

end RegistryConsole.Text
