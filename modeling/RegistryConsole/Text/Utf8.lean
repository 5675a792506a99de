/-!
# UTF-8

Texts as octets and back. `encode` writes a text, `decode?` reads a well-formed sequence, and
`decodeLossy` reads any sequence, writing U+FFFD once for each maximal prefix of a character
that is cut short and once for each octet that starts none.
-/
namespace RegistryConsole.Text.Utf8

/-- The octets of one character, one to four of them. -/
def encodeChar (c : Char) : List UInt8 :=
  let n := c.toNat
  if n < 0x80 then [n.toUInt8]
  else if n < 0x800 then [(0xC0 + n / 0x40).toUInt8, (0x80 + n % 0x40).toUInt8]
  else if n < 0x10000 then
    [(0xE0 + n / 0x1000).toUInt8, (0x80 + n / 0x40 % 0x40).toUInt8, (0x80 + n % 0x40).toUInt8]
  else
    [(0xF0 + n / 0x40000).toUInt8, (0x80 + n / 0x1000 % 0x40).toUInt8,
      (0x80 + n / 0x40 % 0x40).toUInt8, (0x80 + n % 0x40).toUInt8]

def encodeChars (s : List Char) : List UInt8 :=
  s.flatMap encodeChar

def encode (s : String) : List UInt8 :=
  encodeChars s.toList

/-- The second octets that may follow a first one, and how many tails follow those. -/
def lead (b : UInt8) : Option (Nat × Nat × Nat) :=
  if 0xC2 ≤ b && b ≤ 0xDF then some (0x80, 0xBF, 0)
  else if b == 0xE0 then some (0xA0, 0xBF, 1)
  else if b == 0xED then some (0x80, 0x9F, 1)
  else if 0xE1 ≤ b && b ≤ 0xEF then some (0x80, 0xBF, 1)
  else if b == 0xF0 then some (0x90, 0xBF, 2)
  else if 0xF1 ≤ b && b ≤ 0xF3 then some (0x80, 0xBF, 2)
  else if b == 0xF4 then some (0x80, 0x8F, 2)
  else none

/-- The payload bits of a first octet that has `tails + 1` octets after it. -/
def leadBits (b : UInt8) (tails : Nat) : Nat :=
  b.toNat % Nat.pow 2 (5 - tails)

/-- A character being read: the bits so far, the tails owed after the next octet, and the range
of the next octet. -/
structure Partial where
  bits : Nat
  owed : Nat
  low : Nat
  high : Nat

/-- What the reading of a sequence yields at one place. -/
inductive Piece where
  | char (c : Char)
  | broken
  deriving DecidableEq

/-- Splits a sequence into characters and maximal broken parts. -/
def pieces : Option Partial → List UInt8 → List Piece
  | none, [] => []
  | some _, [] => [.broken]
  | none, b :: rest =>
    if b < 0x80 then .char (Char.ofNat b.toNat) :: pieces none rest
    else
      match lead b with
      | some (low, high, owed) => pieces (some ⟨leadBits b owed, owed, low, high⟩) rest
      | none => .broken :: pieces none rest
  | some p, b :: rest =>
    if p.low ≤ b.toNat && b.toNat ≤ p.high then
      let bits := p.bits * 0x40 + b.toNat % 0x40
      match p.owed with
      | 0 => .char (Char.ofNat bits) :: pieces none rest
      | owed + 1 => pieces (some ⟨bits, owed, 0x80, 0xBF⟩) rest
    else if b < 0x80 then .broken :: .char (Char.ofNat b.toNat) :: pieces none rest
    else
      match lead b with
      | some (low, high, owed) => .broken :: pieces (some ⟨leadBits b owed, owed, low, high⟩) rest
      | none => .broken :: .broken :: pieces none rest

def Piece.orReplacement : Piece → Char
  | .char c => c
  | .broken => Char.ofNat 0xFFFD

def Piece.char? : Piece → Option Char
  | .char c => some c
  | .broken => none

/-- The text of a well-formed sequence. -/
def decodeChars? (bytes : List UInt8) : Option (List Char) :=
  (pieces none bytes).mapM Piece.char?

def decode? (bytes : List UInt8) : Option String :=
  (decodeChars? bytes).map String.ofList

def decodeLossyChars (bytes : List UInt8) : List Char :=
  (pieces none bytes).map Piece.orReplacement

def decodeLossy (bytes : List UInt8) : String :=
  String.ofList (decodeLossyChars bytes)

end RegistryConsole.Text.Utf8
