/-!
# JSON values

The values the registry and the console exchange. The members of an object are kept sorted by
key, each key once: `Json.insert` replaces a member of the same key, and objects are built by it
alone. Whole numbers are those of sixty-four bits, signed or not; every other number is a
double.
-/
namespace RegistryConsole

inductive Json.Number where
  | whole (n : Int)
  | double (x : Float)
  deriving Inhabited

inductive Json where
  | null
  | bool (b : Bool)
  | number (n : Json.Number)
  | string (s : String)
  | array (items : List Json)
  | object (members : List (String × Json))
  deriving Inhabited

namespace Json

def Number.same : Number → Number → Bool
  | .whole a, .whole b => a == b
  | .double a, .double b => a == b
  | _, _ => false

mutual
/-- Equality of values; numbers of the two kinds differ, and doubles compare as doubles. -/
def same : Json → Json → Bool
  | .null, .null => true
  | .bool a, .bool b => a == b
  | .number a, .number b => a.same b
  | .string a, .string b => a == b
  | .array a, .array b => sameItems a b
  | .object a, .object b => sameMembers a b
  | _, _ => false

def sameItems : List Json → List Json → Bool
  | [], [] => true
  | a :: as, b :: bs => same a b && sameItems as bs
  | _, _ => false

def sameMembers : List (String × Json) → List (String × Json) → Bool
  | [], [] => true
  | (k, a) :: as, (l, b) :: bs => k == l && same a b && sameMembers as bs
  | _, _ => false
end

/-- Puts a member at its place among sorted members, in place of one of the same key. -/
def insert {α : Type} (key : String) (value : α) : List (String × α) → List (String × α)
  | [] => [(key, value)]
  | (k, v) :: rest =>
    if key < k then (key, value) :: (k, v) :: rest
    else if key = k then (key, value) :: rest
    else (k, v) :: insert key value rest

/-- The members in order of their keys; of two with the same key the later one stays. -/
def sortMembers {α : Type} (members : List (String × α)) : List (String × α) :=
  members.foldl (fun sorted m => insert m.1 m.2 sorted) []

def ofMembers (members : List (String × Json)) : Json :=
  .object (sortMembers members)

def strings (items : List String) : Json :=
  .array (items.map .string)

def nat (n : Nat) : Json :=
  .number (.whole n)

/-- The text where there is one, else null. -/
def ofString? : Option String → Json
  | some s => .string s
  | none => .null

/-- The member of a key, for an object that has it. -/
def get? (key : String) : Json → Option Json
  | .object members => members.lookup key
  | _ => none

def asString? : Json → Option String
  | .string s => some s
  | _ => none

def asArray? : Json → Option (List Json)
  | .array items => some items
  | _ => none

end Json

end RegistryConsole
