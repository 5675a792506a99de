import RegistryConsole.Decimal.Plain
import RegistryConsole.Json.Basic
import RegistryConsole.Text.Quoted
/-!
# Configuration values

Trees of settings before they have types. Each value knows where it comes from, so that a fault
can be reported with its place. Sources are laid over each other path by path: a value put at a
path turns whatever stands in its way into tables and lists.
-/
namespace RegistryConsole.Configuration

inductive Scalar where
  | bool (b : Bool)
  | int (n : Int)
  | float (x : Float)
  | text (s : String)

/-- A tree of settings; an origin is where a value was read. -/
inductive Value where
  | nil
  | scalar (origin : Option String) (s : Scalar)
  | list (origin : Option String) (items : List Value)
  | table (origin : Option String) (members : List (String × Value))
  deriving Inhabited

/-- One step of a path. -/
inductive Step where
  | key (name : String)
  /-- A place in a list; negative places count from the end. -/
  | index (place : Int)
  deriving DecidableEq, Repr

abbrev Path := List Step

namespace Value

def members : Value → List (String × Value)
  | table _ members => members
  | _ => []

def items : Value → List Value
  | list _ items => items
  | _ => []

/-- The origin of a table or list that stays one. -/
def tableOrigin : Value → Option String
  | table origin _ => origin
  | _ => none

def listOrigin : Value → Option String
  | list origin _ => origin
  | _ => none

/-- The place in a list of some length. -/
def placeIn (length : Nat) (place : Int) : Nat :=
  if 0 ≤ place then place.toNat else length - place.natAbs

/-- The items with one replaced, after as many empty ones as it takes. -/
def setItem (place : Nat) (new : Value) (items : List Value) : List Value :=
  (items ++ List.replicate (place + 1 - items.length) nil).set place new

/-- Puts a value at a path. -/
def put (new : Value) : Path → Value → Value
  | [], _ => new
  | .key name :: path, old =>
    let inner := ((old.members).lookup name).getD nil
    table old.tableOrigin (Json.insert name (put new path inner) old.members)
  | .index i :: path, old =>
    let place := placeIn old.items.length i
    let inner := old.items.getD place nil
    list old.listOrigin (setItem place (put new path inner) old.items)

end Value

/-- What was found where something else was expected. -/
inductive Found where
  | nothing
  | bool (b : Bool)
  | int (n : Int)
  | unsigned (n : Nat)
  | float (x : Float)
  | text (s : String)
  | sequence
  | map

def Found.of : Value → Found
  | .nil => .nothing
  | .scalar _ (.bool b) => .bool b
  | .scalar _ (.int n) => .int n
  | .scalar _ (.float x) => .float x
  | .scalar _ (.text s) => .text s
  | .list .. => .sequence
  | .table .. => .map

private def booleanText (b : Bool) : String :=
  if b then "boolean `true`" else "boolean `false`"

private def integerText (n : Int) : String :=
  "`" ++ String.ofList (Text.signedDecimal n) ++ "`"

/-- The wording where a scalar of a certain type is expected. -/
def Found.scalarText : Found → String
  | nothing => "unit value"
  | bool b => booleanText b
  | int n => "64-bit integer " ++ integerText n
  | unsigned n => "64-bit unsigned integer " ++ integerText n
  | float x => "floating point `" ++ String.ofList (Decimal.plain x) ++ "`"
  | text s => "string " ++ Text.showQuoted s
  | sequence => "sequence"
  | map => "map"

/-- The wording where a sequence or a section is expected. -/
def Found.structureText : Found → String
  | int n => "integer " ++ integerText n
  | unsigned n => "integer " ++ integerText n
  | float x => "floating point `" ++ String.ofList (Decimal.pointed x) ++ "`"
  | other => other.scalarText

end RegistryConsole.Configuration
