import RegistryConsole.Configuration.Value
import RegistryConsole.Text.Case
import RegistryConsole.Text.Split
/-!
# Settings from the environment

Variables that begin with `APP_` lay settings over those of the configuration file. Two
underscores separate the steps of a path, letter case does not count, and a value that reads as a
boolean or a number is one.
-/
namespace RegistryConsole.Configuration

open Text

abbrev Environment := List (String × String)

/-- How the names of settings begin, in small letters. -/
def nameLead : List Char := "app_".toList

/-- The setting whose value is a list between commas. -/
def listKey : List Char := "defaults.oauth_providers".toList

/-- Where a value of the environment comes from, as faults report it. -/
def environmentOrigin : Option String := some "the environment"

/-- The key with a point for every two underscores. -/
def pointed : List Char → List Char
  | '_' :: '_' :: rest => '.' :: pointed rest
  | c :: rest => c :: pointed rest
  | [] => []

/-- Characters of the names in a path. -/
def isNameChar (c : Char) : Bool :=
  c.isAlphanum || c = ' ' || c = '_' || c = '-'

/-- The name at the front of a path and what follows it. -/
def name? (s : List Char) : Option (String × List Char) :=
  match s.takeWhile isNameChar with
  | [] => none
  | name => some (String.ofList name, s.dropWhile isNameChar)

private def isPlainBlank (c : Char) : Bool :=
  c = ' ' || c = '\t' || c = '\n' || c = '\r'

/-- The index between brackets, blanks around it and a sign allowed. -/
def index? (s : List Char) : Option Int :=
  match ((s.dropWhile isPlainBlank).reverse.dropWhile isPlainBlank).reverse with
  | '-' :: digits => (natural? digits).map fun n => -(n : Int)
  | digits => (natural? (dropPlus digits)).map fun n => (n : Int)

/-- The further steps of a path; `fuel` bounds their number. -/
def steps? : Nat → List Char → Option Path
  | _, [] => some []
  | 0, _ => none
  | fuel + 1, '.' :: rest => do
    let (name, rest) ← name? rest
    return .key name :: (← steps? fuel rest)
  | fuel + 1, '[' :: rest => do
    let index ← index? (rest.takeWhile (· ≠ ']'))
    match rest.dropWhile (· ≠ ']') with
    | _ :: rest => return .index index :: (← steps? fuel rest)
    | [] => none
  | _, _ => none

/-- The path of a key; a key that is no path is one name. -/
def pathOf (key : List Char) : Path :=
  let path : Option Path := do
    let (name, rest) ← name? key
    return .key name :: (← steps? rest.length rest)
  path.getD [.key (String.ofList key)]

/-- The key of a variable that is a setting. -/
def key? (name : String) : Option (List Char) :=
  (stripLead? nameLead (lowerChars name.toList)).map pointed

/-- A whole number of sixty-four bits with an optional sign. -/
def integer? (s : List Char) : Option Int :=
  let n : Option Int :=
    match s with
    | '-' :: digits => (natural? digits).map fun n => -(n : Int)
    | digits => (natural? (dropPlus digits)).map fun n => (n : Int)
  n.filter fun n => -(Nat.pow 2 63 : Int) ≤ n && n < Nat.pow 2 63

/-- The boolean or number that a text reads as, else the text. -/
def scalarOf (s : String) : Scalar :=
  let lowered := lowerChars s.toList
  if lowered = "true".toList then .bool true
  else if lowered = "false".toList then .bool false
  else
    match integer? s.toList with
    | some n => .int n
    | none =>
      match Decimal.float? s.toList with
      | some x => .float x
      | none => .text s

def valueOf (key : List Char) (s : String) : Value :=
  match scalarOf s with
  | .text s =>
    if key = listKey then
      .list environmentOrigin
        ((splitString ',' s).map fun part => .scalar environmentOrigin (.text part))
    else .scalar environmentOrigin (.text s)
  | scalar => .scalar environmentOrigin scalar

/-- Lays the settings of the environment over a tree. -/
def overlay (environment : Environment) (tree : Value) : Value :=
  environment.foldl (fun tree (name, s) =>
    match key? name with
    | some key => Value.put (valueOf key s) (pathOf key) tree
    | none => tree) tree

end RegistryConsole.Configuration
