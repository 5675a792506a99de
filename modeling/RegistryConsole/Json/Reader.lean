import RegistryConsole.Json.Basic
import RegistryConsole.Text.Numeral
import RegistryConsole.Text.Utf8
/-!
# Reading JSON

One value with blanks around it and nothing after. Values nest at most 127 deep, lone
surrogates and raw control characters in texts are refused, and so are numbers whose magnitude
exceeds every double.

A number without fraction and exponent that fits sixty-four bits is whole, minus zero excepted.
Any other number is a double: the digits are read into a sixty-four bit significand, digits that
no longer fit only count towards the exponent, and the significand is scaled by a power of ten
in double arithmetic.
-/
namespace RegistryConsole.Json

open Text

/-- The deepest nesting of arrays and objects. -/
def maxDepth : Nat := 127

def skipBlanks : List Char → List Char
  | c :: rest => if c = ' ' || c = '\n' || c = '\t' || c = '\r' then skipBlanks rest else c :: rest
  | [] => []

private def greatestWhole : Nat := Nat.pow 2 64 - 1

/-- A significand with its decimal exponent, and whether the number was written whole. -/
structure Significand where
  digits : Nat
  exponent : Int
  /-- A digit did not fit; later digits of this part are only counted. -/
  full : Bool

/-- Reads digits in front of the point: past the limit they raise the exponent. -/
def wholeDigits (acc : Significand) : List Char → Significand × List Char
  | [] => (acc, [])
  | c :: rest =>
    match digitValue? c with
    | none => (acc, c :: rest)
    | some d =>
      if acc.full || greatestWhole < acc.digits * 10 + d then
        wholeDigits ⟨acc.digits, acc.exponent + 1, true⟩ rest
      else wholeDigits ⟨acc.digits * 10 + d, acc.exponent, false⟩ rest

/-- Reads digits behind the point: past the limit they are dropped. -/
def fractionDigits (acc : Significand) : List Char → Significand × List Char
  | [] => (acc, [])
  | c :: rest =>
    match digitValue? c with
    | none => (acc, c :: rest)
    | some d =>
      if acc.full || greatestWhole < acc.digits * 10 + d then
        fractionDigits ⟨acc.digits, acc.exponent, true⟩ rest
      else fractionDigits ⟨acc.digits * 10 + d, acc.exponent - 1, false⟩ rest

/-- The run of digits at the front and what follows. -/
def digitRun : List Char → List Char × List Char
  | [] => ([], [])
  | c :: rest =>
    match digitValue? c with
    | none => ([], c :: rest)
    | some _ =>
      let (run, after) := digitRun rest
      (c :: run, after)

private def int32Bound : Nat := Nat.pow 2 31 - 1

private def power (n : Nat) : Float :=
  Float.ofScientific 1 false n

/-- Scales a double by a power of ten, at most 308 places at a time; none for an overflow. -/
def scale : Nat → Float → Int → Option Float
  | 0, f, _ => some f
  | fuel + 1, f, exponent =>
    if exponent.natAbs ≤ 308 then
      if 0 ≤ exponent then
        let scaled := f * power exponent.natAbs
        if scaled.isInf then none else some scaled
      else some (f / power exponent.natAbs)
    else if f == 0 then some f
    else if 0 ≤ exponent then none
    else scale fuel (f / power 308) (exponent + 308)

/-- The double of a significand and an exponent. -/
def scaled? (negative : Bool) (digits : Nat) (exponent : Int) : Option Number :=
  (scale (exponent.natAbs / 308 + 1) digits.toUInt64.toFloat exponent).map fun f =>
    .double (if negative then -f else f)

/-- The rest of a number from its exponent mark on. -/
def readExponent (negative : Bool) (s : Significand) (input : List Char) :
    Option (Number × List Char) :=
  let (below, input) :=
    match input with
    | '+' :: rest => (false, rest)
    | '-' :: rest => (true, rest)
    | rest => (false, rest)
  match digitRun input with
  | ([], _) => none
  | (run, rest) =>
    match natural? run with
    | none => none
    | some power =>
      if int32Bound < power then
        if s.digits != 0 && !below then none
        else some (.double (if negative then -0.0 else 0.0), rest)
      else
        let exponent := if below then s.exponent - power else s.exponent + power
        (scaled? negative s.digits exponent).map (·, rest)

/-- The rest of a number from its fraction's digits on. -/
def readFraction (negative : Bool) (s : Significand) (input : List Char) :
    Option (Number × List Char) :=
  match digitRun input with
  | ([], _) => none
  | _ =>
    match fractionDigits ⟨s.digits, s.exponent, false⟩ input with
    | (s, 'e' :: rest) | (s, 'E' :: rest) => readExponent negative s rest
    | (s, rest) => (scaled? negative s.digits s.exponent).map (·, rest)

def readMagnitude (negative : Bool) (input : List Char) : Option (Number × List Char) :=
  match digitRun input with
  | ([], _) => none
  | ('0' :: _ :: _, _) => none
  | _ =>
    match wholeDigits ⟨0, 0, false⟩ input with
    | (s, '.' :: rest) => readFraction negative s rest
    | (s, 'e' :: rest) | (s, 'E' :: rest) => readExponent negative s rest
    | (s, rest) =>
      if s.full then (scaled? negative s.digits s.exponent).map (·, rest)
      else if !negative then some (.whole s.digits, rest)
      else if s.digits = 0 || Nat.pow 2 63 < s.digits then
        some (.double (-s.digits.toUInt64.toFloat), rest)
      else some (.whole (-s.digits), rest)

def readUnit : List Char → Option (Nat × List Char)
  | a :: b :: c :: d :: rest => (digitsValue? hexValue? 16 0 [a, b, c, d]).map (·, rest)
  | _ => none

/-- The character of a numbered escape, of two where the first is a high surrogate. -/
def readNumbered (input : List Char) : Option (Char × List Char) :=
  match readUnit input with
  | none => none
  | some (unit, rest) =>
    if 0xDC00 ≤ unit && unit ≤ 0xDFFF then none
    else if 0xD800 ≤ unit && unit ≤ 0xDBFF then
      match rest with
      | '\\' :: 'u' :: rest =>
        match readUnit rest with
        | some (low, rest) =>
          if 0xDC00 ≤ low && low ≤ 0xDFFF then
            some (Char.ofNat ((unit - 0xD800) * 0x400 + (low - 0xDC00) + 0x10000), rest)
          else none
        | none => none
      | _ => none
    else some (Char.ofNat unit, rest)

/-- The character of an escape, from behind its backslash. -/
def readEscape : List Char → Option (Char × List Char)
  | '"' :: rest => some ('"', rest)
  | '\\' :: rest => some ('\\', rest)
  | '/' :: rest => some ('/', rest)
  | 'b' :: rest => some ('\x08', rest)
  | 'f' :: rest => some ('\x0c', rest)
  | 'n' :: rest => some ('\n', rest)
  | 'r' :: rest => some ('\r', rest)
  | 't' :: rest => some ('\t', rest)
  | 'u' :: rest => readNumbered rest
  | _ => none

/-- The rest of a quoted text, its characters collected in reverse. -/
def readQuoted : Nat → List Char → List Char → Option (String × List Char)
  | 0, _, _ => none
  | _, _, [] => none
  | _, acc, '"' :: rest => some (String.ofList acc.reverse, rest)
  | fuel + 1, acc, '\\' :: rest =>
    match readEscape rest with
    | some (c, rest) => readQuoted fuel (c :: acc) rest
    | none => none
  | fuel + 1, acc, c :: rest =>
    if c.toNat < 0x20 then none else readQuoted fuel (c :: acc) rest

mutual
/-- One value, with `depth` levels of nesting left. -/
def readValue : Nat → Nat → List Char → Option (Json × List Char)
  | 0, _, _ => none
  | fuel + 1, depth, input =>
    match skipBlanks input with
    | 'n' :: 'u' :: 'l' :: 'l' :: rest => some (.null, rest)
    | 't' :: 'r' :: 'u' :: 'e' :: rest => some (.bool true, rest)
    | 'f' :: 'a' :: 'l' :: 's' :: 'e' :: rest => some (.bool false, rest)
    | '"' :: rest => (readQuoted (rest.length + 1) [] rest).map fun (s, rest) => (.string s, rest)
    | '[' :: rest =>
      match depth with
      | 0 => none
      | depth + 1 =>
        match skipBlanks rest with
        | ']' :: rest => some (.array [], rest)
        | rest => (readItems fuel depth rest).map fun (items, rest) => (.array items, rest)
    | '\x7b' :: rest =>
      match depth with
      | 0 => none
      | depth + 1 =>
        match skipBlanks rest with
        | '\x7d' :: rest => some (.object [], rest)
        | rest => (readMembers fuel depth rest).map fun (members, rest) => (ofMembers members, rest)
    | '-' :: rest => (readMagnitude true rest).map fun (n, rest) => (.number n, rest)
    | rest => (readMagnitude false rest).map fun (n, rest) => (.number n, rest)

/-- The items of an array that is not empty, up to its closing bracket. -/
def readItems : Nat → Nat → List Char → Option (List Json × List Char)
  | 0, _, _ => none
  | fuel + 1, depth, input =>
    match readValue fuel depth input with
    | none => none
    | some (v, rest) =>
      match skipBlanks rest with
      | ']' :: rest => some ([v], rest)
      | ',' :: rest => (readItems fuel depth rest).map fun (vs, rest) => (v :: vs, rest)
      | _ => none

/-- The members of an object that is not empty, up to its closing brace. -/
def readMembers : Nat → Nat → List Char → Option (List (String × Json) × List Char)
  | 0, _, _ => none
  | fuel + 1, depth, input =>
    match skipBlanks input with
    | '"' :: rest =>
      match readQuoted (rest.length + 1) [] rest with
      | none => none
      | some (key, rest) =>
        match skipBlanks rest with
        | ':' :: rest =>
          match readValue fuel depth rest with
          | none => none
          | some (v, rest) =>
            match skipBlanks rest with
            | '\x7d' :: rest => some ([(key, v)], rest)
            | ',' :: rest =>
              (readMembers fuel depth rest).map fun (ms, rest) => ((key, v) :: ms, rest)
            | _ => none
        | _ => none
    | _ => none
end

def ofChars? (input : List Char) : Option Json :=
  match readValue (input.length + 1) maxDepth input with
  | some (v, rest) => if (skipBlanks rest).isEmpty then some v else none
  | none => none

/-- The value that a sequence of octets spells. -/
def ofBytes? (bytes : List UInt8) : Option Json :=
  (Utf8.decodeChars? bytes).bind ofChars?

end RegistryConsole.Json
