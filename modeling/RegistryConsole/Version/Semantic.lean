import RegistryConsole.Text.Numeral
import RegistryConsole.Text.Split
/-!
# Semantic versions

Three numbers below `2 ^ 64`, a prerelease and build metadata. Numbers and numeric identifiers of
a prerelease have no leading zeros. Precedence compares the numbers, then the prereleases; a
version without one comes after every version with one, and build metadata does not count.
-/
namespace RegistryConsole.Version

open Text

def compareText : List Char → List Char → Ordering
  | [], [] => .eq
  | [], _ :: _ => .lt
  | _ :: _, [] => .gt
  | a :: as, b :: bs => (compare a.toNat b.toNat).then (compareText as bs)

structure Semantic where
  major : Nat
  minor : Nat
  patch : Nat
  /-- The identifiers of the prerelease; none for a release. -/
  prerelease : List (List Char)
  deriving DecidableEq, Repr

namespace Semantic

/-- Numbers are below this bound. -/
def numberBound : Nat := Nat.pow 2 64

def isDigits (s : List Char) : Bool :=
  s.all Char.isDigit

def hasLeadingZero : List Char → Bool
  | '0' :: _ :: _ => true
  | _ => false

/-- A number without leading zeros. -/
def number? (s : List Char) : Option Nat :=
  if hasLeadingZero s then none else (natural? s).filter (· < numberBound)

def isIdentifierChar (c : Char) : Bool :=
  c.isAlphanum || c = '-'

def isIdentifier (s : List Char) : Bool :=
  !s.isEmpty && s.all isIdentifierChar

def isPrereleaseIdentifier (s : List Char) : Bool :=
  isIdentifier s && !(isDigits s && hasLeadingZero s)

def isBuild (s : List Char) : Bool :=
  (split '.' s).all isIdentifier

def prerelease? : Option (List Char) → Option (List (List Char))
  | none => some []
  | some s =>
    let identifiers := split '.' s
    if identifiers.all isPrereleaseIdentifier then some identifiers else none

def ofChars? (s : List Char) : Option Semantic :=
  let (rest, build) := cut '+' s
  if (build.map isBuild).getD true then
    let (core, prerelease) := cut '-' rest
    match split '.' core, prerelease? prerelease with
    | [major, minor, patch], some identifiers => do
      return ⟨← number? major, ← number? minor, ← number? patch, identifiers⟩
    | _, _ => none
  else none

/-- Digits compare as numbers and come before other identifiers. -/
def compareIdentifier (a b : List Char) : Ordering :=
  match isDigits a, isDigits b with
  | true, true => (compare a.length b.length).then (compareText a b)
  | true, false => .lt
  | false, true => .gt
  | false, false => compareText a b

def compareIdentifiers : List (List Char) → List (List Char) → Ordering
  | [], [] => .eq
  | [], _ :: _ => .lt
  | _ :: _, [] => .gt
  | a :: as, b :: bs => (compareIdentifier a b).then (compareIdentifiers as bs)

def comparePrerelease : List (List Char) → List (List Char) → Ordering
  | [], [] => .eq
  | [], _ :: _ => .gt
  | _ :: _, [] => .lt
  | as, bs => compareIdentifiers as bs

def precedence (a b : Semantic) : Ordering :=
  (compare a.major b.major).then <| (compare a.minor b.minor).then <|
    (compare a.patch b.patch).then (comparePrerelease a.prerelease b.prerelease)

end Semantic

end RegistryConsole.Version
