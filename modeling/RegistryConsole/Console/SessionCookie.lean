import RegistryConsole.Http.Cookie
import RegistryConsole.Instant.HttpDate
import RegistryConsole.Json.Basic
/-!
# Session cookies

A browser is known by a cookie that holds the id of its record. A record is kept when a request
changed it and was not answered with an error of the server; a cookie that stands for nothing is
taken away.
-/
namespace RegistryConsole

/-- The items of one browser. -/
abbrev SessionRecord := List (String × Json)

/-- The records of all browsers, by their ids. A record is kept until it is replaced: that a server
drops one after twenty-four hours without a change, by its own clock, is left out. -/
abbrev SessionRecords := List (String × SessionRecord)

def SessionRecords.save (id : String) (record : SessionRecord) (records : SessionRecords) :
    SessionRecords :=
  (id, record) :: records.filter (·.1 ≠ id)

namespace SessionCookie

def name : String := "id"

def idLength : Nat := 22

def isIdChar (c : Char) : Bool :=
  c.isAlphanum || c = '-' || c = '_'

/-- Whether a value is an id: sixteen octets in base 64, so the last digit has four zero bits. -/
def isId (value : String) : Bool :=
  let digits := value.toList
  digits.length = idLength && digits.all isIdChar &&
    digits.getLast?.any (['A', 'Q', 'g', 'w'].contains ·)

/-- How long a browser keeps the cookie, in seconds. -/
def maxAge : String := "86400"

def text (secure : Bool) (id : String) : String :=
  name ++ "=" ++ id ++ "; HttpOnly; SameSite=Strict; " ++ (if secure then "Secure; " else "") ++
    "Path=/; Max-Age=" ++ maxAge

private def year : Instant.Span := .ofSeconds (365 * 86400)

def removal (now : Instant) : String :=
  name ++ "=; Path=/; Max-Age=0; Expires=" ++ (now.add (-year)).httpDate

/-- A browser's record as one request finds it. -/
structure Presented where
  value : Option String
  id : Option String
  record : Option SessionRecord

def present (headers : Http.Headers) (records : SessionRecords) : Presented :=
  let value := Http.cookieValue? name headers
  let id := value.filter isId
  { value, id, record := id.bind fun id => records.lookup id }

/-- What becomes of a record at the end of a request. -/
inductive Settlement where
  /-- Nothing is kept and no cookie is sent. -/
  | untouched
  | saved (id : String)
  | removed
  deriving DecidableEq, Repr

/-- The id that a request goes on under: an unknown one is given up once the record was
consulted. -/
def Presented.knownId (p : Presented) (consulted : Bool) : Option String :=
  if consulted && p.record.isNone then none else p.id

/-- Settles a record: `consulted` tells whether it was used at all, `changed` whether it differs
now, and `fresh` is the id of a record that has none yet. -/
def settle (p : Presented) (consulted changed : Bool) (items : SessionRecord) (status : Nat)
    (fresh : String) : Settlement :=
  let id := p.knownId consulted
  let isVoid := id.isNone && items.isEmpty
  if p.value.isSome && isVoid then .removed
  else if changed && !isVoid && status < 500 then .saved (id.getD fresh)
  else .untouched

end SessionCookie

end RegistryConsole
