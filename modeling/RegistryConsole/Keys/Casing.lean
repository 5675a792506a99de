import RegistryConsole.Json.Basic
/-!
# Casing of keys

The registry writes the keys of objects in snake case and the console's models in camel case.
Both changes look at two characters at a time, from the left, and take both when they match; only
ASCII letters have a case here. Changed keys of one object may meet: the member that came later in
the order of the keys stays.
-/
namespace RegistryConsole.Keys

/-- Writes `_x` as `X`. -/
def camelChars : List Char → List Char
  | [] => []
  | [c] => [c]
  | c :: d :: rest =>
    if c = '_' && d.isLower then d.toUpper :: camelChars rest
    else c :: camelChars (d :: rest)

/-- Writes `xY` as `x_y`. -/
def snakeChars : List Char → List Char
  | [] => []
  | [c] => [c]
  | c :: d :: rest =>
    if c.isLower && d.isUpper then c :: '_' :: d.toLower :: snakeChars rest
    else c :: snakeChars (d :: rest)

def toCamel (key : String) : String :=
  String.ofList (camelChars key.toList)

def toSnake (key : String) : String :=
  String.ofList (snakeChars key.toList)

mutual
/-- Changes the keys of every object in a value. -/
def mapKeys (recase : String → String) : Json → Json
  | .array items => .array (mapItems recase items)
  | .object members => .ofMembers (mapMembers recase members)
  | v => v

def mapItems (recase : String → String) : List Json → List Json
  | [] => []
  | v :: rest => mapKeys recase v :: mapItems recase rest

def mapMembers (recase : String → String) : List (String × Json) → List (String × Json)
  | [] => []
  | (k, v) :: rest => (recase k, mapKeys recase v) :: mapMembers recase rest
end

end RegistryConsole.Keys
