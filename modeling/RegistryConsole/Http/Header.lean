import RegistryConsole.Text.Utf8
/-!
# HTTP headers

A list of names in lower case with their values, in the order they were sent. A name may occur
several times; `get?` finds its first value and `set` leaves it exactly one.
-/
namespace RegistryConsole.Http

abbrev Headers := List (String × String)

namespace Headers

def get? (name : String) (headers : Headers) : Option String :=
  headers.lookup name

def remove (name : String) (headers : Headers) : Headers :=
  headers.filter (·.1 ≠ name)

def set (name value : String) (headers : Headers) : Headers :=
  remove name headers ++ [(name, value)]

end Headers

/-- Characters that a header value may hold at all. -/
def isValueChar (c : Char) : Bool :=
  c = '\t' || (0x20 ≤ c.toNat && c.toNat ≠ 0x7F)

def isValue (s : String) : Bool :=
  s.toList.all isValueChar

/-- Characters of a header value that can be read as text. -/
def isTextChar (c : Char) : Bool :=
  c = '\t' || (0x20 ≤ c.toNat && c.toNat < 0x7F)

/-- A header value as text, unless it holds anything beyond ASCII. -/
def textValue? (s : String) : Option String :=
  if s.toList.all isTextChar then some s else none

end RegistryConsole.Http
