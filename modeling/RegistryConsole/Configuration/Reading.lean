import RegistryConsole.Configuration.Environment
import RegistryConsole.Configuration.Fault
import RegistryConsole.Settings
import RegistryConsole.Text.Case
/-!
# Settings from configuration values

Types the settings of a tree. A scalar turns into another type where that makes sense: numbers
and words into booleans, numbers round to whole ones, and everything has a text.
-/
namespace RegistryConsole.Configuration

open Text

abbrev Reader (α : Type) := Value → Except Fault α

private def mistyped (v : Value) (origin : Option String) (wanted : String) : Except Fault α :=
  .error (.mistyped (.of v) wanted "" origin)

def originOf : Value → Option String
  | .nil => none
  | .scalar origin _ | .list origin _ | .table origin _ => origin

/-- The words for yes and no. -/
def yesWords : List String := ["true", "on", "yes"]

def noWords : List String := ["false", "off", "no"]

def readBool : Reader Bool
  | .scalar _ (.bool b) => .ok b
  | .scalar _ (.int n) => .ok (n != 0)
  | .scalar _ (.float x) => .ok (x != 0)
  | .scalar origin (.text s) =>
    let word := toLower s
    if yesWords.contains word || word = "1" then .ok true
    else if noWords.contains word || word = "0" then .ok false
    else .error (.mistyped (.text word) "a boolean" "" origin)
  | v => mistyped v (originOf v) "a boolean"

/-- A word that counts as one or zero. -/
def wordNumber? (s : String) : Option Nat :=
  let word := toLower s
  if yesWords.contains word then some 1
  else if noWords.contains word then some 0
  else none

/-- A whole number from `-2 ^ 63` to below `2 ^ 63`; what is beyond counts as the nearest. -/
def readSigned : Reader Int
  | .scalar _ (.int n) => .ok n
  | .scalar _ (.bool b) => .ok b.toInt
  | .scalar _ (.float x) => .ok x.round.toInt64.toInt
  | .scalar origin (.text s) =>
    match (wordNumber? s).map Int.ofNat <|> integer? s.toList with
    | some n => .ok n
    | none => .error (.mistyped (.text s) "an integer" "" origin)
  | v => mistyped v (originOf v) "an integer"

/-- A whole number below `2 ^ 64`; of a number with a point, what is beyond counts as the
nearest. -/
def readUnsigned : Reader Nat
  | .scalar origin (.int n) =>
    if n < 0 then
      .error (.mistyped (.int n) "an unsigned 64 bit or less integer" "" origin)
    else .ok n.toNat
  | .scalar _ (.bool b) => .ok b.toNat
  | .scalar _ (.float x) => .ok x.round.toUInt64.toNat
  | .scalar origin (.text s) =>
    match wordNumber? s <|> boundedNatural? (Nat.pow 2 64) s.toList with
    | some n => .ok n
    | none => .error (.mistyped (.text s) "an integer" "" origin)
  | v => mistyped v (originOf v) "an integer"

/-- A whole number below `2 ^ 16`. -/
def readPort : Reader Nat := fun v => do
  let n ← readUnsigned v
  if n < Nat.pow 2 16 then return n
  else .error (.mistyped (.unsigned n) "an unsigned 16 bit integer" "" none)

def readText : Reader String
  | .scalar _ (.text s) => .ok s
  | .scalar _ (.bool b) => .ok (if b then "true" else "false")
  | .scalar _ (.int n) => .ok (String.ofList (signedDecimal n))
  | .scalar _ (.float x) => .ok (String.ofList (Decimal.plain x))
  | v => mistyped v (originOf v) "a string"

def readOption (read : Reader α) : Reader (Option α)
  | .nil => .ok none
  | v => (read v).map some

def readItems (read : Reader α) : Nat → List Value → Except Fault (List α)
  | _, [] => .ok []
  | place, v :: rest => do
    let a ← (read v).mapError (Fault.inPlace place)
    let as ← readItems read (place + 1) rest
    return a :: as

def readList (read : Reader α) : Reader (List α)
  | .list _ items => readItems read 0 items
  | v => .error (.misshapen (.of v) "a sequence")

/-- One setting of a section. -/
structure Setting (ρ : Type) where
  key : String
  required : Bool
  read : Value → ρ → Except Fault ρ

def setting (key : String) (read : Reader α) (set : α → ρ → ρ) : Setting ρ :=
  ⟨key, false, fun v r => (read v).map (set · r)⟩

def Setting.require (s : Setting ρ) : Setting ρ :=
  { s with required := true }

/-- Reads the members of a section in turn into the settings of their keys. -/
def readMembers (settings : List (Setting ρ)) : List (String × Value) → ρ → Except Fault ρ
  | [], r => .ok r
  | (key, v) :: rest, r =>
    match settings.find? (·.key = key) with
    | none => readMembers settings rest r
    | some s => do
      let r ← (s.read v r).mapError (Fault.under key)
      readMembers settings rest r

/-- Reads items in turn into the settings of their places. -/
def readPlaces (name : String) (count : Nat) :
    Nat → List (Setting ρ) → List Value → ρ → Except Fault ρ
  | _, [], _, r => .ok r
  | place, s :: settings, v :: rest, r => do
    let r ← (s.read v r).mapError (Fault.inPlace place)
    readPlaces name count (place + 1) settings rest r
  | place, s :: settings, [], r =>
    if s.required then
      .error (.incomplete place
        ("struct " ++ name ++ " with " ++ String.ofList (decimal count) ++
          (if count = 1 then " element" else " elements")))
    else readPlaces name count (place + 1) settings [] r

/-- A section with defaults; a list is read by places. -/
def readSection (name : String) (settings : List (Setting ρ)) (defaults : ρ) : Reader ρ
  | .table _ members => do
    let r ← readMembers settings members defaults
    match settings.find? fun s => s.required && (members.lookup s.key).isNone with
    | some s => .error (.missing s.key)
    | none => return r
  | .list _ items => readPlaces name settings.length 0 settings items defaults
  | v => .error (.misshapen (.of v) ("struct " ++ name))

def readServer : Reader ServerSettings :=
  readSection "ServerSettings" [
    (setting "host" readText fun v s => { s with host := v }).require,
    (setting "port" readPort fun v s => { s with port := v }).require,
    setting "secure_cookies" readBool fun v s => { s with secureCookies := v }] {}

def readRegistry : Reader RegistrySettings :=
  readSection "RegistrySettings" [
    (setting "url" readText fun v s => { s with url := v }).require,
    setting "timeout_seconds" readUnsigned fun v s => { s with timeoutSeconds := v },
    setting "runtime_path" readText fun v s => { s with runtimePath := v }] {}

def readSession : Reader SessionSettings :=
  readSection "SessionSettings" [
    setting "ttl_seconds" readSigned fun v s => { s with ttlSeconds := v }] {}

def readDefaults : Reader RuntimeDefaults :=
  readSection "RuntimeDefaults" [
    setting "company_name" readText fun v s => { s with companyName := v },
    setting "oauth_providers" (readList readText) fun v s => { s with oauthProviders := v }] {}

def readTelemetry : Reader TelemetrySettings :=
  readSection "TelemetrySettings" [
    setting "log_level" readText fun v s => { s with logLevel := v },
    setting "otlp_endpoint" (readOption readText) fun v s => { s with otlpEndpoint := v }] {}

def readSettings : Reader Settings :=
  readSection "Settings" [
    (setting "server" readServer fun v s => { s with server := v }).require,
    (setting "registry" readRegistry fun v s => { s with registry := v }).require,
    setting "session" readSession fun v s => { s with session := v },
    setting "defaults" readDefaults fun v s => { s with defaults := v },
    setting "telemetry" readTelemetry fun v s => { s with telemetry := v }] {}

end RegistryConsole.Configuration
