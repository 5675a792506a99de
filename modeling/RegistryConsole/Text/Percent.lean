import RegistryConsole.Text.Numeral
import RegistryConsole.Text.Utf8
/-!
# Percent-encoding

Octets written as a percent sign and two hexadecimal digits. `encode` writes the characters of a
set and everything beyond ASCII so; `decode` reads what is well formed and passes the rest on.
-/
namespace RegistryConsole.Text.Percent

def encodeOctet (b : UInt8) : List Char :=
  ['%', upperHexDigit (b.toNat / 16), upperHexDigit (b.toNat % 16)]

/-- A character as it is, or its octets encoded if it is in the set or not of ASCII. -/
def encodeChar (inSet : Char → Bool) (c : Char) : List Char :=
  if 0x80 ≤ c.toNat || inSet c then (Utf8.encodeChar c).flatMap encodeOctet else [c]

def encode (inSet : Char → Bool) (s : List Char) : List Char :=
  s.flatMap (encodeChar inSet)

def octetValue? (b : UInt8) : Option Nat :=
  if b < 0x80 then hexValue? (Char.ofNat b.toNat) else none

/-- Reads the encoded octets of a sequence. -/
def decodeOctets : List UInt8 → List UInt8
  | [] => []
  | b :: h :: l :: rest =>
    if b = 0x25 then
      match octetValue? h, octetValue? l with
      | some high, some low => (high * 16 + low).toUInt8 :: decodeOctets rest
      | _, _ => b :: decodeOctets (h :: l :: rest)
    else b :: decodeOctets (h :: l :: rest)
  | b :: rest => b :: decodeOctets rest

def decode (s : List Char) : List UInt8 :=
  decodeOctets (Utf8.encodeChars s)

/-- The text that a text stands for, if its octets make one. -/
def decodeText? (s : List Char) : Option String :=
  Utf8.decode? (decode s)

end RegistryConsole.Text.Percent
