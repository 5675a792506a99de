import RegistryConsole.Text.Blank
import RegistryConsole.Text.Numeral
import RegistryConsole.Configuration.Environment
/-!
# Files of variables

A text of assignments, one a line, that adds to the environment. Values may be quoted: between
single quotes everything stands for itself, between double quotes a backslash escapes, and a
quoted value may go on over several lines. Outside single quotes a dollar sign puts in the value
of a variable. Reading ends at the first line that is no assignment.
-/
namespace RegistryConsole.Startup

open RegistryConsole.Configuration Text

/-- Where a reader of a line stands between its quotes. -/
inductive Quoting where
  | complete
  | blank
  | escape
  | double
  | doubleEscape
  | single
  | singleEscape
  deriving DecidableEq, Repr

/-- One character further; none where a comment begins. -/
def Quoting.next (q : Quoting) (c : Char) : Option Quoting :=
  let opened : Quoting :=
    if c = '\\' then .escape else if c = '"' then .double else if c = '\x27' then .single
    else .complete
  match q with
  | .blank => if c = '#' then none else some opened
  | .complete =>
    if isBlank c && c ≠ '\n' && c ≠ '\r' then some .blank else some opened
  | .escape => some .complete
  | .double => some (if c = '\\' then .doubleEscape else if c = '"' then .complete else .double)
  | .doubleEscape => some .double
  | .single => some (if c = '\\' then .singleEscape else if c = '\x27' then .complete else .single)
  | .singleEscape => some .single

inductive LineEnd where
  | complete
  /-- A comment begins after these characters of the line. -/
  | comment (before : List Char)
  /-- The value goes on with the next line. -/
  | goesOn (q : Quoting)

/-- Follows the quotes of a line; `before` holds its characters so far in reverse. -/
def scanLine (before : List Char) : Quoting → List Char → LineEnd
  | .complete, [] => .complete
  | q, [] => .goesOn q
  | q, c :: rest =>
    match q.next c with
    | none => .comment before.reverse
    | some q => scanLine (c :: before) q rest

def withoutEnd (line : List Char) : List Char :=
  match stripTail? ['\n'] line with
  | some line => (stripTail? ['\r'] line).getD line
  | none => line

/-- Joins lines that belong together; `sofar` is what stands before the next line, within the
quotes `q`. Lines come with their ends. The last entry is none if a value is not ended. -/
def logicalLines (sofar : List Char) (q : Quoting) : List (List Char) → List (Option (List Char))
  | [] => if q = .complete then [] else [none]
  | line :: rest =>
    if q = .complete && (line.dropWhile isBlank).head? = some '#' then
      logicalLines [] .complete rest
    else
      match scanLine [] q line with
      | .complete => some (withoutEnd (sofar ++ line)) :: logicalLines [] .complete rest
      | .comment before => some (sofar ++ before) :: logicalLines [] .complete rest
      | .goesOn q => logicalLines (sofar ++ line) q rest

/-- Where a reader of a value stands. -/
inductive ValueState where
  | plain
  | single
  /-- Within double quotes or outside, after a backslash. -/
  | escaped (quoted : Bool)
  | double
  /-- After the end, where only blanks and a comment may follow. -/
  | ended
  /-- In the name of a variable, in reverse. -/
  | name (quoted : Bool) (sofar : List Char)
  /-- In a name between braces, in reverse. -/
  | bracedName (quoted : Bool) (sofar : List Char)

private def afterName (quoted : Bool) : ValueState :=
  if quoted then .double else .plain

private def isNamePart (c : Char) : Bool :=
  c.isAlphanum

/-- Reads a value, putting in variables by `lookup`. -/
def readValue (lookup : String → String) : ValueState → List Char → Option (List Char)
  | .plain, [] | .ended, [] => some []
  | .escaped false, [] => some []
  | .name false sofar, [] => some (lookup (String.ofList sofar.reverse)).toList
  | _, [] => none
  | .ended, c :: rest =>
    if c = ' ' || c = '\t' then readValue lookup .ended rest
    else if c = '#' then some []
    else none
  | .escaped quoted, c :: rest =>
    if c = '\\' || c = '\x27' || c = '"' || c = '$' || c = ' ' then
      (readValue lookup (afterName quoted) rest).map (c :: ·)
    else if c = 'n' then (readValue lookup (afterName quoted) rest).map ('\n' :: ·)
    else none
  | .single, c :: rest =>
    if c = '\x27' then readValue lookup .plain rest
    else (readValue lookup .single rest).map (c :: ·)
  | .name quoted sofar, c :: rest =>
    if isNamePart c then readValue lookup (.name quoted (c :: sofar)) rest
    else if c = '\x7b' && sofar.isEmpty then readValue lookup (.bracedName quoted []) rest
    else
      let value := (lookup (String.ofList sofar.reverse)).toList
      if c = '$' then (readValue lookup (.name quoted []) rest).map (value ++ ·)
      else (readValue lookup (afterName quoted) rest).map (value ++ c :: ·)
  | .bracedName quoted sofar, c :: rest =>
    if c = '\x7d' then
      (readValue lookup (afterName quoted) rest).map
        ((lookup (String.ofList sofar.reverse)).toList ++ ·)
    else readValue lookup (.bracedName quoted (c :: sofar)) rest
  | .double, c :: rest =>
    if c = '$' then readValue lookup (.name true []) rest
    else if c = '"' then readValue lookup .plain rest
    else if c = '\\' then readValue lookup (.escaped true) rest
    else (readValue lookup .double rest).map (c :: ·)
  | .plain, c :: rest =>
    if c = '$' then readValue lookup (.name false []) rest
    else if c = '\x27' then readValue lookup .single rest
    else if c = '"' then readValue lookup .double rest
    else if c = '\\' then readValue lookup (.escaped false) rest
    else if c = ' ' || c = '\t' then readValue lookup .ended rest
    else (readValue lookup .plain rest).map (c :: ·)

private def isKeyChar (c : Char) : Bool :=
  c.isAlphanum || c = '_' || c = '.'

def key? (s : List Char) : Option (String × List Char) :=
  match s with
  | c :: _ =>
    if c.isAlpha || c = '_' then some (String.ofList (s.takeWhile isKeyChar), s.dropWhile isKeyChar)
    else none
  | [] => none

private def skipBlanks (s : List Char) : List Char :=
  s.dropWhile isBlank

private def afterEquals? (s : List Char) : Option (List Char) :=
  stripLead? ['='] s

/-- A name with what follows its equals sign; `export` may stand before the name. -/
def target? (s : List Char) : Option (String × List Char) := do
  let (key, rest) ← key? s
  let rest := skipBlanks rest
  match afterEquals? rest with
  | some value => return (key, value)
  | none =>
    if key = "export" then
      let (key, rest) ← key? rest
      let value ← afterEquals? (skipBlanks rest)
      return (key, value)
    else none

inductive Assignment where
  | nothing
  | set (name value : String)

def assignment? (lookup : String → String) (line : List Char) : Option Assignment :=
  match skipBlanks line with
  | [] | '#' :: _ => some .nothing
  | s => do
    let (name, value) ← target? s
    match skipBlanks value with
    | [] | '#' :: _ => return .set name ""
    | value => return .set name (String.ofList (← readValue lookup .plain value))

/-- Runs assignments in turn up to the first line that is none. A variable that is set already
keeps its value; `said` holds what the lines so far said. -/
def assign (said : Environment) : List (Option (List Char)) → Environment → Environment
  | [], environment => environment
  | none :: _, environment => environment
  | some line :: rest, environment =>
    let lookup (name : String) : String :=
      ((environment.lookup name).or (said.lookup name)).getD ""
    match assignment? lookup line with
    | none => environment
    | some .nothing => assign said rest environment
    | some (.set name value) =>
      let environment :=
        if (environment.lookup name).isSome then environment else environment ++ [(name, value)]
      assign ((name, value) :: said) rest environment

/-- The lines of a text with their ends; only the last may lack one. -/
def linesWithEnds (text : List Char) : List (List Char) :=
  let parts := split '\n' text
  parts.dropLast.map (· ++ ['\n']) ++ (parts.getLast?.filter (!·.isEmpty)).toList

private def byteOrderMark : Char := Char.ofNat 0xFEFF

/-- The environment with the assignments of a file added to it. -/
def addAssignments (file : String) (environment : Environment) : Environment :=
  let text := (stripLead? [byteOrderMark] file.toList).getD file.toList
  assign [] (logicalLines [] .complete (linesWithEnds text)) environment

end RegistryConsole.Startup
