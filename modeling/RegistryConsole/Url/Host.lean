import RegistryConsole.Text.Case
import RegistryConsole.Text.Percent
import RegistryConsole.Text.Quoted
import RegistryConsole.Text.Split
import RegistryConsole.Url.Punycode
/-!
# Hosts

What stands for the host in the URL of a web address: a domain, an address of four numbers, or
one of eight between brackets. A domain is percent-decoded, written in small letters, and its
labels beyond ASCII are written in Punycode. A domain whose last label is a number has to be an
address.

Beyond ASCII this only comes near to UTS #46. Of its mapping table there are the characters that
are left out, full-width forms, full stops and small letters; there is no normalisation, no check of
what a label decodes to apart from its visible characters, and no check of directions (Bidi). So
some domains beyond ASCII, and some labels in Punycode, are taken here that the standard refuses, or
are written in another way. Domains in ASCII without such labels are as they are in the standard.
-/
namespace RegistryConsole.Url

open Text

/-- An address of eight numbers of sixteen bits. -/
abbrev Groups := List Nat

inductive Host where
  | domain (name : List Char)
  | ipv4 (address : Nat)
  | ipv6 (groups : Groups)
  deriving DecidableEq, Repr

namespace Host

/-- Characters that no domain holds. -/
def isForbidden (c : Char) : Bool :=
  c.toNat ≤ 0x20 || c.toNat = 0x7F ||
    ['#', '/', ':', '<', '>', '?', '@', '[', '\\', ']', '^', '|', '%'].contains c

/-- A number of an address: hexadecimal after `0x`, octal after a zero, else decimal. -/
def part? (s : List Char) : Option Nat :=
  match s with
  | [] => none
  | ['0'] => some 0
  | '0' :: 'x' :: digits | '0' :: 'X' :: digits => digitsValue? hexValue? 16 0 digits
  | '0' :: digits => digitsValue? (fun c => (digitValue? c).filter (· < 8)) 8 0 digits
  | digits => digitsValue? digitValue? 10 0 digits

/-- The labels of a domain, an empty last one dropped. -/
def labelsOf (domain : List Char) : List (List Char) :=
  let labels := split '.' domain
  if labels.getLast? = some [] then labels.dropLast else labels

/-- Whether the last label is a number, so that the domain has to be an address. -/
def endsInNumber (domain : List Char) : Bool :=
  match (labelsOf domain).getLast? with
  | none => false
  | some last =>
    (!last.isEmpty && last.all Char.isDigit) || (part? last).isSome

/-- The address of one to four numbers, the last of which fills what is left. -/
def ipv4? (domain : List Char) : Option Nat :=
  match (labelsOf domain).mapM part? with
  | none => none
  | some parts =>
    match parts.reverse with
    | [] => none
    | last :: front =>
      if parts.length ≤ 4 && front.all (· ≤ 255) && last < Nat.pow 256 (5 - parts.length) then
        some (front.reverse.foldl (fun acc n => acc * 256 + n) 0 * Nat.pow 256 (5 - parts.length) + last)
      else none

def group? (s : List Char) : Option Nat :=
  if s.isEmpty || 4 < s.length then none else digitsValue? hexValue? 16 0 s

/-- A decimal number of one octet without leading zeros. -/
def octet? (s : List Char) : Option Nat :=
  if s.head? = some '0' && s.length ≠ 1 then none else (natural? s).filter (· ≤ 255)

/-- Four octets between points, as two groups. -/
def dotted? (s : List Char) : Option Groups :=
  match (split '.' s).mapM octet? with
  | some [a, b, c, d] => some [a * 256 + b, c * 256 + d]
  | _ => none

/-- Groups between colons. Where `tail` is set the last may be four octets. -/
def groupList? (tail : Bool) : List (List Char) → Option Groups
  | [] => some []
  | [last] => if tail && last.contains '.' then dotted? last else (group? last).map ([·])
  | part :: rest => do return (← group? part) :: (← groupList? tail rest)

def groupsOf? (tail : Bool) (s : List Char) : Option Groups :=
  if s.isEmpty then some [] else groupList? tail (split ':' s)

/-- The parts before and after the first double colon. -/
def cutDouble : List Char → Option (List Char × List Char)
  | ':' :: ':' :: rest => some ([], rest)
  | c :: rest => (cutDouble rest).map fun (before, after) => (c :: before, after)
  | [] => none

/-- Eight groups; a double colon stands for one or more that are zero. -/
def ipv6? (s : List Char) : Option Groups :=
  match cutDouble s with
  | none => (groupsOf? true s).filter (·.length = 8)
  | some (before, after) => do
    let front ← groupsOf? false before
    let back ← groupsOf? true after
    if front.length + back.length ≤ 7 then
      some (front ++ List.replicate (8 - front.length - back.length) 0 ++ back)
    else none

def zeros (groups : Groups) : Nat :=
  (groups.takeWhile (· = 0)).length

/-- The place and length of the first longest run of zeros. -/
def longestZeros (place : Nat) : Groups → Nat × Nat
  | [] => (0, 0)
  | g :: rest =>
    let here := zeros (g :: rest)
    let later := longestZeros (place + 1) rest
    if 0 < here && later.2 ≤ here then (place, here) else later

def groupText (g : Nat) : List Char :=
  Nat.toDigits 16 g

def groupsText (groups : Groups) : List Char :=
  join [':'] (groups.map groupText)

/-- The address with its longest run of at least two zero groups left out. -/
def ipv6Text (groups : Groups) : List Char :=
  let (place, length) := longestZeros 0 groups
  if length < 2 then groupsText groups
  else groupsText (groups.take place) ++ [':', ':'] ++ groupsText (groups.drop (place + length))

def ipv4Text (address : Nat) : List Char :=
  join ['.'] <| [address / 0x1000000, address / 0x10000 % 256, address / 256 % 256, address % 256].map
    decimal

/-- Characters that a domain leaves out. UTS #46 ignores a few more. -/
def isIgnored (c : Char) : Bool :=
  [0xAD, 0x34F, 0x180B, 0x180C, 0x180D, 0x180F, 0x200B, 0x2060, 0x2064, 0xFEFF].contains c.toNat ||
    (0xFE00 ≤ c.toNat && c.toNat ≤ 0xFE0F)

/-- The plain form of a character: full-width forms are those of ASCII, and every full stop is a
point. All other mappings of UTS #46 but those to small letters are left out. -/
def plainChar (c : Char) : Char :=
  if 0xFF01 ≤ c.toNat && c.toNat ≤ 0xFF5E then Char.ofNat (c.toNat - 0xFEE0)
  else if [0x3002, 0xFF0E, 0xFF61].contains c.toNat then '.'
  else c

/-- The characters a domain is compared by. -/
def foldDomain (s : List Char) : List Char :=
  lowerWithoutContext ((s.filter (!isIgnored ·)).map plainChar)
where
  lowerWithoutContext (s : List Char) : List Char := s.flatMap lowerChar

def punycodeLead : List Char := ['x', 'n', '-', '-']

/-- A label in ASCII, if it may stand in a domain. The validity criteria of UTS #46 are narrower: of
a label beyond ASCII only the visible characters and the first one are looked at. -/
def label? (label : List Char) : Option (List Char) :=
  match stripLead? punycodeLead label with
  | some coded =>
    match Punycode.decode? coded with
    | some decoded =>
      if decoded.any (0x80 ≤ ·.toNat) && decoded.all (fun c => c.toNat < 0x80 || isVisible c)
      then some label else none
    | none => none
  | none =>
    if label.all (·.toNat < 0x80) then some label
    else
      match label with
      | c :: _ =>
        if label.all (fun c => c.toNat < 0x80 || !inRanges invisibleRanges c) &&
          !inRanges extenderRanges c
        then some (punycodeLead ++ Punycode.encode label) else none
      | [] => some []

/-- A domain in ASCII, if all of its labels may stand in one. -/
def domain? (s : List Char) : Option (List Char) :=
  match (split '.' (foldDomain s)).mapM label? with
  | some labels =>
    let domain := join ['.'] labels
    if domain.any isForbidden then none else some domain
  | none => none

def ofChars? (s : List Char) : Option Host :=
  match s with
  | '[' :: rest =>
    match rest.reverse with
    | ']' :: inner => (ipv6? inner.reverse).map .ipv6
    | _ => none
  | s =>
    match (Utf8.decodeChars? (Percent.decode s)).bind domain? with
    | none | some [] => none
    | some name => if endsInNumber name then (ipv4? name).map .ipv4 else some (.domain name)

def chars : Host → List Char
  | domain name => name
  | ipv4 address => ipv4Text address
  | ipv6 groups => '[' :: ipv6Text groups ++ [']']

end Host

end RegistryConsole.Url
