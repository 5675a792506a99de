import RegistryConsole.Text.Split
/-!
# Path patterns

A pattern is a list of segments, each a given text or a parameter. A parameter stands for any
segment; only the last segment of a path must not be empty then.
-/
namespace RegistryConsole.Route

inductive Segment where
  | literal (text : String)
  | parameter (name : String)
  deriving DecidableEq, Repr

abbrev Pattern := List Segment

/-- The segments that parameters stand for, by their names. -/
abbrev Arguments := List (String × List Char)

def Segment.text : Segment → String
  | literal text => text
  | parameter name => ":" ++ name

namespace Pattern

/-- The pattern as it is written, parameters after a colon. -/
def text (p : Pattern) : String :=
  "/" ++ "/".intercalate (p.map Segment.text)

def match? : Pattern → List (List Char) → Option Arguments
  | [], [] => some []
  | .literal text :: p, s :: rest => if s = text.toList then match? p rest else none
  | .parameter name :: p, s :: rest =>
    if s.isEmpty && rest.isEmpty then none else (match? p rest).map ((name, s) :: ·)
  | _, _ => none

end Pattern

/-- The segments of a path that begins with a slash. -/
def segments? : List Char → Option (List (List Char))
  | '/' :: rest => some (Text.split '/' rest)
  | _ => none

end RegistryConsole.Route
