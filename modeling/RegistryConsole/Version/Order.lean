import RegistryConsole.Text.Blank
import RegistryConsole.Version.Semantic
/-!
# The order of versions

Any two texts compare as versions. Two semantic versions compare by precedence; otherwise a
lenient comparison keeps its rules: components are numbers where they can be, a missing component
is zero, a number comes after a component that is none, and a release after its prereleases.
Blanks around a version and one leading `v` do not count.
-/
namespace RegistryConsole.Version

open Text

/-- Drops blanks around a version and one leading `v`. -/
def bare (s : String) : List Char :=
  match trimChars s.toList with
  | 'v' :: rest => rest
  | rest => rest

/-- A component that is a number. -/
def component? (s : List Char) : Option Nat :=
  boundedNatural? (Nat.pow 2 64) s

/-- Numbers by value, after anything else; the rest by code point. -/
def compareComponent (a b : List Char) : Ordering :=
  match component? a, component? b with
  | some m, some n => compare m n
  | some _, none => .gt
  | none, some _ => .lt
  | none, none => compareText a b

/-- Compares components pairwise; where one version has none left, zero stands in. -/
def compareCores : List (List Char) → List (List Char) → Ordering
  | [], [] => .eq
  | a :: as, [] => (compareComponent a ['0']).then (compareCores as [])
  | [], b :: bs => (compareComponent ['0'] b).then (compareCores [] bs)
  | a :: as, b :: bs => (compareComponent a b).then (compareCores as bs)

/-- Numbers by value, before anything else; the rest by code point. -/
def compareLooseIdentifier (a b : List Char) : Ordering :=
  match component? a, component? b with
  | some m, some n => compare m n
  | some _, none => .lt
  | none, some _ => .gt
  | none, none => compareText a b

def compareLooseIdentifiers : List (List Char) → List (List Char) → Ordering
  | [], [] => .eq
  | [], _ :: _ => .lt
  | _ :: _, [] => .gt
  | a :: as, b :: bs => (compareLooseIdentifier a b).then (compareLooseIdentifiers as bs)

/-- A version without its build metadata, its prerelease apart. -/
def parts (s : List Char) : List Char × Option (List Char) :=
  cut '-' (cut '+' s).1

def compareLoosePrerelease : Option (List Char) → Option (List Char) → Ordering
  | none, none => .eq
  | none, some _ => .gt
  | some _, none => .lt
  | some a, some b => compareLooseIdentifiers (split '.' a) (split '.' b)

/-- The comparison for texts that need not be semantic versions. -/
def compareLenient (a b : String) : Ordering :=
  let (coreA, preA) := parts (bare a)
  let (coreB, preB) := parts (bare b)
  (compareCores (split '.' coreA) (split '.' coreB)).then (compareLoosePrerelease preA preB)

def semantic? (s : String) : Option Semantic :=
  Semantic.ofChars? (bare s)

def compareVersions (a b : String) : Ordering :=
  match semantic? a, semantic? b with
  | some l, some r => l.precedence r
  | _, _ => compareLenient a b

/-- Newest first; versions of one rank keep their order. -/
def newestFirst (versions : List String) : List String :=
  versions.mergeSort fun a b => compareVersions b a != .gt

end RegistryConsole.Version
