import RegistryConsole.Decimal.Shortest
import RegistryConsole.Json.Basic
import RegistryConsole.Text.Numeral
/-!
# JSON texts

The compact text of a value: no blanks, members in order of their keys. A text is quoted with
the short escapes where there are any; other control characters become four hexadecimal digits
and every other character stands for itself. A double has the fewest digits that read back and
always a point or an exponent.
-/
namespace RegistryConsole.Json

open Text

/-- How one character of a quoted text is written. -/
def escapeChar (c : Char) : List Char :=
  if c = '"' then ['\\', '"']
  else if c = '\\' then ['\\', '\\']
  else if c = '\n' then ['\\', 'n']
  else if c = '\r' then ['\\', 'r']
  else if c = '\t' then ['\\', 't']
  else if c = '\x08' then ['\\', 'b']
  else if c = '\x0c' then ['\\', 'f']
  else if c.toNat < 0x20 then ['\\', 'u'] ++ hexPadded 4 c.toNat
  else [c]

def quoted (s : String) : List Char :=
  '"' :: s.toList.flatMap escapeChar ++ ['"']

/-- Least and greatest exponent of the leading digit written without an exponent. -/
def plainRange : Int × Int := (-5, 15)

/-- The digits of a decimal laid out with a point, or with an exponent of at least two digits. -/
def layout (d : Decimal.Scaled) : List Char :=
  let digits := decimal d.digits
  let lead := (digits.length : Int) - 1 + d.exponent
  if d.digits = 0 then ['0', '.', '0']
  else if lead < plainRange.1 || plainRange.2 < lead then
    let power := decimal lead.natAbs
    let power := if power.length < 2 then '0' :: power else power
    digits.take 1 ++ (if digits.length = 1 then [] else '.' :: digits.drop 1) ++
      ['e', if lead < 0 then '-' else '+'] ++ power
  else if 0 ≤ d.exponent then
    digits ++ List.replicate d.exponent.toNat '0' ++ ['.', '0']
  else if 0 ≤ lead then
    digits.take (lead.toNat + 1) ++ '.' :: digits.drop (lead.toNat + 1)
  else
    '0' :: '.' :: List.replicate (-lead - 1).toNat '0' ++ digits

/-- The text of a double; JSON has no infinities and no not-a-number, which print as null. -/
def doubleText (x : Float) : List Char :=
  if x.isNaN || x.isInf then "null".toList
  else
    let bits := x.toBits
    (if Nat.pow 2 63 ≤ bits.toNat then ['-'] else []) ++ layout (Decimal.shortest bits)

def Number.text : Number → List Char
  | .whole n => signedDecimal n
  | .double x => doubleText x

mutual
def chars : Json → List Char
  | .null => "null".toList
  | .bool true => "true".toList
  | .bool false => "false".toList
  | .number n => n.text
  | .string s => quoted s
  | .array items => '[' :: itemChars items ++ [']']
  | .object members => '\x7b' :: memberChars members ++ ['\x7d']

def itemChars : List Json → List Char
  | [] => []
  | [v] => chars v
  | v :: rest => chars v ++ ',' :: itemChars rest

def memberChars : List (String × Json) → List Char
  | [] => []
  | [(k, v)] => quoted k ++ ':' :: chars v
  | (k, v) :: rest => quoted k ++ ':' :: chars v ++ ',' :: memberChars rest
end

def text (v : Json) : String :=
  String.ofList (chars v)

end RegistryConsole.Json
