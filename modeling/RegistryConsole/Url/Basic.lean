import RegistryConsole.Url.Host
/-!
# URLs

Web addresses in their normal form. Blanks around an address and line breaks within it do not
count, backslashes are slashes, the scheme and the host are in small letters, the port of the
scheme is left out, dot segments are resolved, and what may not stand in a part is
percent-encoded.
-/
namespace RegistryConsole

open Text

structure Url where
  scheme : List Char
  username : List Char
  password : List Char
  host : Url.Host
  port : Option Nat
  /-- The segments between the slashes, at least one. -/
  path : List (List Char)
  query : Option (List Char)
  fragment : Option (List Char)
  deriving DecidableEq, Repr

namespace Url

/-- Schemes of web addresses, each with its port. -/
def schemes : List (List Char × Nat) :=
  [("http".toList, 80), ("https".toList, 443), ("ws".toList, 80), ("wss".toList, 443),
    ("ftp".toList, 21)]

private def isControl (c : Char) : Bool :=
  c.toNat < 0x20

/-- Characters percent-encoded in a fragment. -/
def inFragmentSet (c : Char) : Bool :=
  isControl c || c.toNat = 0x7F || [' ', '"', '<', '>', '\x60'].contains c

def inQuerySet (c : Char) : Bool :=
  isControl c || c.toNat = 0x7F || [' ', '"', '#', '<', '>', '\x27'].contains c

def inPathSet (c : Char) : Bool :=
  inFragmentSet c || ['#', '?', '\x7b', '\x7d'].contains c

def inUserSet (c : Char) : Bool :=
  inPathSet c || ['/', ':', ';', '=', '@', '[', '\\', ']', '^', '|'].contains c

/-- Drops controls and spaces at both ends, and tabs and line breaks everywhere. -/
def clean (s : List Char) : List Char :=
  let inner := (s.dropWhile (·.toNat ≤ 0x20)).reverse.dropWhile (·.toNat ≤ 0x20) |>.reverse
  inner.filter fun c => c ≠ '\t' && c ≠ '\n' && c ≠ '\r'

def isSchemeChar (c : Char) : Bool :=
  c.isAlphanum || c = '+' || c = '-' || c = '.'

/-- The scheme in small letters and what follows its colon. -/
def scheme? (s : List Char) : Option (List Char × List Char) :=
  match cut ':' s with
  | (c :: name, some rest) =>
    if c.isAlpha && name.all isSchemeChar then some ((c :: name).map Char.toLower, rest) else none
  | _ => none

def isSlash (c : Char) : Bool :=
  c = '/' || c = '\\'

/-- User name and password before the last at sign, and what follows it. -/
def userInfo (authority : List Char) : Option (List Char) × List Char :=
  let backwards := authority.reverse
  let after := (backwards.takeWhile (· ≠ '@')).reverse
  match backwards.dropWhile (· ≠ '@') with
  | [] => (none, after)
  | _ :: before => (some before.reverse, after)

/-- The host and what follows its colon, brackets kept together. -/
def hostAndPort : Bool → List Char → List Char × Option (List Char)
  | _, [] => ([], none)
  | inside, c :: rest =>
    if c = ':' && !inside then ([], some rest)
    else
      let inside := if c = '[' then true else if c = ']' then false else inside
      let (host, port) := hostAndPort inside rest
      (c :: host, port)

/-- A port below `2 ^ 16`; none is meant by no digits and by the port of the scheme. -/
def port? (schemePort : Nat) : Option (List Char) → Option (Option Nat)
  | none | some [] => some none
  | some digits =>
    match natural? digits with
    | some n => if Nat.pow 2 16 ≤ n then none else some (if n = schemePort then none else some n)
    | none => none

def splitPath : List Char → List (List Char)
  | [] => [[]]
  | c :: rest =>
    if isSlash c then [] :: splitPath rest
    else
      match splitPath rest with
      | [] => [[c]]
      | segment :: segments => (c :: segment) :: segments

/-- A segment that stands for the path so far. -/
def isSingleDot (s : List Char) : Bool :=
  let s := s.map Char.toLower
  s = ['.'] || s = "%2e".toList

/-- A segment that stands for the path without its last segment. -/
def isDoubleDot (s : List Char) : Bool :=
  let s := s.map Char.toLower
  s = "..".toList || s = ".%2e".toList || s = "%2e.".toList || s = "%2e%2e".toList

/-- Resolves dot segments on top of those before them, kept in reverse. A dot segment at the end
leaves an empty segment. -/
def resolveDots (before : List (List Char)) : List (List Char) → List (List Char)
  | [] => before.reverse
  | segment :: rest =>
    let last := rest.isEmpty
    if isDoubleDot segment then
      resolveDots (if last then [] :: before.tail else before.tail) rest
    else if isSingleDot segment then
      resolveDots (if last then [] :: before else before) rest
    else resolveDots (segment :: before) rest

/-- The normal form of a path's segments. -/
def segmentsOf (path : List Char) : List (List Char) :=
  let path := match path with
    | c :: rest => if isSlash c then rest else path
    | [] => []
  (resolveDots [] (splitPath path)).map (Percent.encode inPathSet)

/-- The address of a cleaned text behind a scheme that is one of a web address. -/
def ofParts? (scheme : List Char) (schemePort : Nat) (rest : List Char) : Option Url :=
  let (rest, fragment) := cut '#' rest
  let (rest, query) := cut '?' rest
  let rest := rest.dropWhile isSlash
  let authority := rest.takeWhile (!isSlash ·)
  let path := rest.dropWhile (!isSlash ·)
  let (user, hostPort) := userInfo authority
  let (host, port) := hostAndPort false hostPort
  let (username, password) := cut ':' (user.getD [])
  match Host.ofChars? host, port? schemePort port with
  | some host, some port =>
    some {
      scheme, host, port
      username := Percent.encode inUserSet username
      password := Percent.encode inUserSet (password.getD [])
      path := segmentsOf path
      query := query.map (Percent.encode inQuerySet)
      fragment := fragment.map (Percent.encode inFragmentSet) }
  | _, _ => none

/-- The web address that a text spells. -/
def ofChars? (s : List Char) : Option Url :=
  match scheme? (clean s) with
  | none => none
  | some (scheme, rest) =>
    match schemes.lookup scheme with
    | some port => ofParts? scheme port rest
    | none => none

def ofString? (s : String) : Option Url :=
  ofChars? s.toList

def originChars (u : Url) : List Char :=
  u.scheme ++ [':', '/', '/'] ++ u.host.chars ++
    match u.port with
    | some port => ':' :: decimal port
    | none => []

def pathChars (u : Url) : List Char :=
  '/' :: join ['/'] u.path

def targetChars (u : Url) : List Char :=
  u.pathChars ++
    match u.query with
    | some query => '?' :: query
    | none => []

/-- The address without user name, password and fragment, as it is requested. -/
def requestText (u : Url) : String :=
  String.ofList (u.originChars ++ u.targetChars)

/-- The address without user name and password, as messages show it. -/
def messageText (u : Url) : String :=
  String.ofList <| u.originChars ++ u.targetChars ++
    match u.fragment with
    | some fragment => '#' :: fragment
    | none => []

def targetText (u : Url) : String :=
  String.ofList u.targetChars

end Url

end RegistryConsole
