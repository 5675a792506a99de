import RegistryConsole.Json.Decoder
/-!
# Session storage

The items kept for one browser, by key. Each access may be refused, and a refused access leaves
the items as they are. Whether the items were changed is remembered: writing the value that is
there already is no change, a removal always is one.
-/
namespace RegistryConsole

/-- One use of an item. -/
inductive Storage.Access where
  | get (key : String)
  | set (key : String)
  | remove (key : String)
  deriving DecidableEq, Repr

structure StorageError where
  cause : String
  deriving DecidableEq, Repr

def StorageError.message (e : StorageError) : String :=
  "session storage failure: " ++ e.cause

structure Storage where
  items : List (String × Json) := []
  changed : Bool := false
  /-- The cause for which an access is refused. -/
  refuses : Storage.Access → Option String := fun _ => none

namespace Storage

/-- The text of an item; an item that is no text cannot be read. -/
def textOf : Json → Except StorageError String
  | v =>
    match Json.decodeString v with
    | .ok s => .ok s
    | .error mismatch => .error ⟨mismatch.message⟩

/-- The value of an item, whether or not access to it is refused. -/
def value? (s : Storage) (key : String) : Option Json :=
  s.items.lookup key

def put (s : Storage) (key : String) (value : Json) : Storage :=
  if (s.value? key).any (·.same value) then s
  else { s with items := Json.insert key value s.items, changed := true }

def erase (s : Storage) (key : String) : Storage :=
  { s with items := s.items.filter (·.1 ≠ key), changed := true }

def get (s : Storage) (key : String) : Except StorageError (Option String) :=
  match s.refuses (.get key) with
  | some cause => .error ⟨cause⟩
  | none =>
    match s.value? key with
    | none => .ok none
    | some v => (textOf v).map some

def set (s : Storage) (key value : String) : Except StorageError Unit × Storage :=
  match s.refuses (.set key) with
  | some cause => (.error ⟨cause⟩, s)
  | none => (.ok (), s.put key (.string value))

/-- Drops an item; one that is no text is dropped too, and reported. -/
def remove (s : Storage) (key : String) : Except StorageError Unit × Storage :=
  match s.refuses (.remove key) with
  | some cause => (.error ⟨cause⟩, s)
  | none =>
    match (s.value? key).map textOf with
    | some (.error e) => (.error e, s.erase key)
    | _ => (.ok (), s.erase key)

/-- Writes items in turn, up to the first failure. -/
def setAll (s : Storage) : List (String × String) → Except StorageError Unit × Storage
  | [] => (.ok (), s)
  | (key, value) :: rest =>
    match s.set key value with
    | (.ok (), s) => s.setAll rest
    | (.error e, s) => (.error e, s)

/-- Drops items in turn, up to the first failure. -/
def removeAll (s : Storage) : List String → Except StorageError Unit × Storage
  | [] => (.ok (), s)
  | key :: rest =>
    match s.remove key with
    | (.ok (), s) => s.removeAll rest
    | (.error e, s) => (.error e, s)

end Storage

end RegistryConsole
