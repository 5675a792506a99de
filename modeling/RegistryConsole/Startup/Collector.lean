import RegistryConsole.Text.Split
/-!
# Trace collectors

Where traces are sent, and why an address cannot be used. The path of the traces is put behind
the address.
-/
namespace RegistryConsole.Startup.Collector

open Text

def tracesPath : List Char := "/v1/traces".toList

inductive Fault where
  | badChar
  | badAuthority
  | badFormat
  deriving DecidableEq, Repr

def Fault.message : Fault → String
  | badChar => "invalid uri character"
  | badAuthority => "invalid authority"
  | badFormat => "invalid format"

private def isAddressChar (c : Char) : Bool :=
  c.isAlphanum || "!#$&()*+,-./:;=?@[]_~'".toList.contains c

private def endsAuthority (c : Char) : Bool :=
  c = '/' || c = '?' || c = '#'

/-- What was met of an authority. -/
structure Met where
  colons : Nat := 0
  opened : Bool := false
  closed : Bool := false
  percent : Bool := false
  /-- The last character was an at sign. -/
  atSign : Bool := false

def mostColons : Nat := 8

/-- The authority of an address and what follows it. -/
def authority (met : Met) : List Char → Except Fault (List Char)
  | [] => finish met []
  | c :: rest =>
    if endsAuthority c then finish met (c :: rest)
    else
      let met := { met with atSign := false }
      if c = ':' then
        if mostColons ≤ met.colons then .error .badAuthority
        else authority { met with colons := met.colons + 1 } rest
      else if c = '[' then
        if met.percent || met.opened then .error .badAuthority
        else authority { met with opened := true } rest
      else if c = ']' then
        if !met.opened || met.closed then .error .badAuthority
        else authority { met with closed := true, colons := 0, percent := false } rest
      else if c = '@' then authority { met with atSign := true, colons := 0, percent := false } rest
      else if c = '%' then authority { met with percent := true } rest
      else if isAddressChar c then authority met rest
      else .error .badChar
where
  /-- Judges an authority by what was met of it. -/
  finish (met : Met) (rest : List Char) : Except Fault (List Char) :=
    if met.opened != met.closed || 1 < met.colons || met.atSign || met.percent then
      .error .badAuthority
    else .ok rest

private def isPathChar (c : Char) : Bool :=
  let n := c.toNat
  n = 0x21 || (0x24 ≤ n && n ≤ 0x3B) || n = 0x3D || (0x40 ≤ n && n ≤ 0x5F) ||
    (0x61 ≤ n && n ≤ 0x7A) || n = 0x7C || n = 0x7E || 0x7F ≤ n || c = '"' ||
    c = '\x7b' || c = '\x7d'

private def isQueryChar (c : Char) : Bool :=
  let n := c.toNat
  n = 0x21 || (0x24 ≤ n && n ≤ 0x3B) || n = 0x3D || (0x3F ≤ n && n ≤ 0x7E) || 0x7F ≤ n

/-- Judges the path and the query of an address, a fragment left out. -/
def checkPath (s : List Char) : Except Fault Unit :=
  let s := s.takeWhile (· ≠ '#')
  let path := s.takeWhile (· ≠ '?')
  let query := (s.dropWhile (· ≠ '?')).drop 1
  if path.all isPathChar && query.all isQueryChar then .ok () else .error .badChar

private def isSchemeChar (c : Char) : Bool :=
  c.isAlphanum || c = '+' || c = '-' || c = '.'

/-- What follows the scheme of an address, if it has one. -/
def afterScheme? (s : List Char) : Option (List Char) :=
  stripLead? "://".toList (s.dropWhile isSchemeChar)

def check (s : List Char) : Except Fault Unit :=
  match s with
  | '/' :: _ => checkPath s
  | _ =>
    match afterScheme? s with
    | none => do
      let rest ← authority {} s
      if rest.isEmpty then .ok () else .error .badFormat
    | some s => do
      let rest ← authority {} s
      if rest.length = s.length then .error .badFormat else checkPath rest

/-- Why traces cannot be sent to an endpoint. -/
def fault? (endpoint : String) : Option Fault :=
  match check (endpoint.toList ++ tracesPath) with
  | .ok () => none
  | .error fault => some fault

end RegistryConsole.Startup.Collector
