import RegistryConsole.Text.CaseTable
/-!
# Letter case

Small and capital forms of texts in all of Unicode. A capital sigma becomes a final sigma at the
end of a word: after a cased letter and not before one, characters that do not interrupt words
set aside.
-/
namespace RegistryConsole.Text

/-- Ranges hold their first code point and end before their second. -/
def inRanges (ranges : List (Nat × Nat)) (c : Char) : Bool :=
  ranges.any fun r => r.1 ≤ c.toNat && c.toNat < r.2

def CaseRun.holds (run : CaseRun) (n : Nat) : Bool :=
  run.first ≤ n && n ≤ run.last && (n - run.first) % run.stride = 0

/-- The character a table of runs maps to, the character itself if it maps none. -/
def mapRuns (runs : List CaseRun) (c : Char) : Char :=
  match runs.find? (·.holds c.toNat) with
  | some run => Char.ofNat (c.toNat + run.shift).toNat
  | none => c

private def dottedCapital : Nat := 0x130

private def capitalSigma : Nat := 0x3A3

/-- The small form of a letter; the capital I with a dot keeps its dot as a mark of its own. -/
def lowerChar (c : Char) : List Char :=
  if c.toNat < 0x80 then [c.toLower]
  else if c.toNat = dottedCapital then ['i', Char.ofNat 0x307]
  else [mapRuns lowerRuns c]

def upperChar (c : Char) : List Char :=
  if c.toNat < 0x80 then [c.toUpper]
  else
    match longCapitals.lookup c.toNat with
    | some capitals => capitals.map Char.ofNat
    | none => [mapRuns upperRuns c]

/-- Whether the next letter that counts is cased. -/
def meetsCased : List Char → Bool
  | [] => false
  | c :: rest =>
    if inRanges caseIgnorableRanges c then meetsCased rest else inRanges casedRanges c

/-- The small form of a text, given what stands before it in reverse. -/
def lowerFrom (before : List Char) : List Char → List Char
  | [] => []
  | c :: rest =>
    (if c.toNat = capitalSigma then
      if meetsCased before && !meetsCased rest then [Char.ofNat 0x3C2] else [Char.ofNat 0x3C3]
    else lowerChar c) ++ lowerFrom (c :: before) rest

def lowerChars (s : List Char) : List Char :=
  lowerFrom [] s

def toLower (s : String) : String :=
  String.ofList (lowerChars s.toList)

/-- The text with its first letter in capital form. -/
def capitalise (s : String) : String :=
  match s.toList with
  | [] => ""
  | c :: rest => String.ofList (upperChar c ++ rest)

end RegistryConsole.Text
