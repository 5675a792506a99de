/-!
# Splitting and joining

A text is cut at every occurrence of one character, so the parts joined by it give the text
back (`join_split`). There is always at least one part.
-/
namespace RegistryConsole.Text

/-- The parts of a text between the occurrences of `sep`. -/
def split (sep : Char) : List Char → List (List Char)
  | [] => [[]]
  | c :: rest =>
    if c = sep then [] :: split sep rest
    else
      match split sep rest with
      | [] => [[c]]
      | part :: parts => (c :: part) :: parts

def join (sep : List Char) : List (List Char) → List Char
  | [] => []
  | [part] => part
  | part :: parts => part ++ sep ++ join sep parts

/-- The part before the first `sep` and the part after it, if there is one. -/
def cut (sep : Char) : List Char → List Char × Option (List Char)
  | [] => ([], none)
  | c :: rest =>
    if c = sep then ([], some rest)
    else
      let (before, after) := cut sep rest
      (c :: before, after)

theorem split_ne_nil (sep : Char) (s : List Char) : split sep s ≠ [] := by
  cases s with
  | nil => simp [split]
  | cons c rest =>
    simp only [split]
    split
    · simp
    · split <;> simp

theorem join_split (sep : Char) (s : List Char) : join [sep] (split sep s) = s := by
  induction s with
  | nil => rfl
  | cons c rest ih =>
    cases hs : split sep rest with
    | nil => exact absurd hs (split_ne_nil sep rest)
    | cons p ps =>
      rw [hs] at ih
      by_cases h : c = sep
      · simp [split, h, hs, join, ih]
      · cases ps with
        | nil => simp_all [split, join]
        | cons q qs => simp_all [split, join]

def splitString (sep : Char) (s : String) : List String :=
  (split sep s.toList).map String.ofList

/-- What is left of `s` after `lead`, if it begins so. -/
def stripLead? : List Char → List Char → Option (List Char)
  | [], s => some s
  | _ :: _, [] => none
  | l :: ls, c :: s => if l = c then stripLead? ls s else none

/-- What is left of `s` before `tail`, if it ends so. -/
def stripTail? (tail s : List Char) : Option (List Char) :=
  (stripLead? tail.reverse s.reverse).map List.reverse

def startsWith (lead s : List Char) : Bool :=
  (stripLead? lead s).isSome

end RegistryConsole.Text
