import RegistryConsole.Configuration.Environment
import RegistryConsole.Text.Blank
/-!
# Configuration files

The files the console is configured with: keys with values, deeper sections indented further, and
lists of items after dashes. Texts may be quoted; a text that is not may read as a boolean or a
number. Lines that are blank or begin with a number sign say nothing.
-/
namespace RegistryConsole.Configuration

open Text

/-- A line that says something: how far it is indented, and its text. -/
structure Line where
  indent : Nat
  text : List Char
  deriving DecidableEq, Repr

namespace Document

/-- Cuts off a comment behind a value. -/
def dropComment : List Char → List Char
  | [] => []
  | ' ' :: '#' :: _ => []
  | c :: rest => c :: dropComment rest

/-- The text of a value, without blanks and comments around it. -/
def valueText (s : List Char) : List Char :=
  match trimChars s with
  | '"' :: rest => '"' :: rest
  | '\x27' :: rest => '\x27' :: rest
  | _ => trimChars (dropComment s)

def linesOf (text : String) : List Line :=
  (split '\n' text.toList).filterMap fun line =>
    let indent := (line.takeWhile (· = ' ')).length
    match trimRight (line.drop indent) with
    | [] => none
    | '#' :: _ => none
    | text => some ⟨indent, text⟩

/-- A text between double quotes, from behind the first; none if it does not end. -/
def quotedText? : List Char → Option (List Char)
  | [] => none
  | ['"'] => some []
  | '"' :: _ => none
  | '\\' :: 'n' :: rest => (quotedText? rest).map ('\n' :: ·)
  | '\\' :: 't' :: rest => (quotedText? rest).map ('\t' :: ·)
  | '\\' :: c :: rest => (quotedText? rest).map (c :: ·)
  | c :: rest => (quotedText? rest).map (c :: ·)

/-- The value of a text that is not quoted. -/
def plainValue (origin : Option String) (s : List Char) : Value :=
  if s = [] || s = ['~'] || s = "null".toList then .nil
  else if s = "true".toList then .scalar origin (.bool true)
  else if s = "false".toList then .scalar origin (.bool false)
  else
    match integer? s with
    | some n => .scalar origin (.int n)
    | none =>
      match Decimal.magnitude? s with
      | some x => .scalar origin (.float x)
      | none => .scalar origin (.text (String.ofList s))

/-- The value written on one line. -/
def scalarValue? (origin : Option String) (s : List Char) : Option Value :=
  match s with
  | '"' :: rest =>
    (quotedText? rest).map fun text => .scalar origin (.text (String.ofList text))
  | '\x27' :: rest =>
    (stripTail? ['\x27'] rest).map fun text => .scalar origin (.text (String.ofList text))
  | s => some (plainValue origin s)

private def isKeyChar (c : Char) : Bool :=
  c.isAlphanum || c = '_' || c = '-'

/-- The key of a line and the text of its value. -/
def entry? (s : List Char) : Option (String × List Char) :=
  match s.takeWhile isKeyChar, s.dropWhile isKeyChar with
  | [], _ => none
  | key, ':' :: rest => some (String.ofList key, valueText rest)
  | _, _ => none

/-- The items of a list at one indentation, and the lines after it. -/
def items? (origin : Option String) (indent : Nat) :
    List Line → Option (List Value × List Line)
  | [] => some ([], [])
  | line :: rest =>
    match line.text with
    | '-' :: text =>
      if line.indent = indent then do
        let item ← scalarValue? origin (valueText text)
        let (items, rest) ← items? origin indent rest
        return (item :: items, rest)
      else some ([], line :: rest)
    | _ => some ([], line :: rest)

private def isItem (line : Line) : Bool :=
  line.text.head? = some '-'

/-- The members of a section at one indentation, and the lines after it; `fuel` bounds the lines
that are read. -/
def members? (origin : Option String) (indent : Nat) :
    Nat → List Line → Option (List (String × Value) × List Line)
  | _, [] => some ([], [])
  | 0, _ => none
  | fuel + 1, line :: rest =>
    if line.indent < indent then some ([], line :: rest)
    else if indent < line.indent then none
    else do
      let (key, text) ← entry? line.text
      let (value, rest) ←
        match text, rest with
        | [], next :: _ =>
          if isItem next && indent ≤ next.indent then
            (items? origin next.indent rest).map fun (items, rest) => (.list origin items, rest)
          else if indent < next.indent then
            (members? origin next.indent fuel rest).map fun (members, rest) =>
              (.table origin (Json.sortMembers members), rest)
          else some (.nil, rest)
        | text, rest => (scalarValue? origin text).map (·, rest)
      let (members, rest) ← members? origin indent fuel rest
      return ((key, value) :: members, rest)

/-- The tree of a text; none if it is not of this form. -/
def read? (origin : Option String) (text : String) : Option Value :=
  let lines := linesOf text
  match members? origin 0 (lines.length + 1) lines with
  | some (members, []) => some (.table origin (Json.sortMembers members))
  | _ => none

end Document

end RegistryConsole.Configuration
