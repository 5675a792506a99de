import RegistryConsole.Envelope.Basic
import RegistryConsole.Instant.Rfc3339
import RegistryConsole.Session.Details
import RegistryConsole.Session.Storage
import RegistryConsole.Text.Split
/-!
# Session snapshots

What the registry last said of the signed-in user, kept in the session storage as four items. A
snapshot can be read while all four are there, the user has a name and an address, and its time
has not come; reading never writes.
-/
namespace RegistryConsole

open Text

/-- A snapshot that can be read. -/
structure Session where
  userName : String
  userEmail : String
  userGroups : List String
  expireAt : Instant
  deriving DecidableEq, Repr

def Session.toJson (s : Session) : Json :=
  .ofMembers [("user_name", .string s.userName), ("user_email", .string s.userEmail),
    ("user_groups", .strings s.userGroups), ("expire_at", .string (s.expireAt.text .letter))]

namespace Snapshot

def nameKey : String := "_auth.session.user.name"

def emailKey : String := "_auth.session.user.email"

def groupsKey : String := "_auth.session.user.groups"

def expiryKey : String := "_auth.session.expire_at"

/-- The items of a snapshot, in the order in which they are written and dropped. -/
def keys : List String :=
  [nameKey, emailKey, groupsKey, expiryKey]

/-- Stands between the groups in their item. -/
def groupMark : Char := '#'

def joinGroups (groups : List String) : String :=
  String.ofList (join [groupMark] (groups.map String.toList))

/-- The groups of an item; empty ones are left out. -/
def splitGroups (s : String) : List String :=
  (splitString groupMark s).filter (!·.isEmpty)

def itemsOf (details : SessionDetails) (expireAt : Instant) : List (String × String) :=
  [(nameKey, details.name), (emailKey, details.email), (groupsKey, joinGroups details.groups),
    (expiryKey, expireAt.text .numeric)]

/-- The session that four texts make, unless one is lacking or the time has come. -/
def session? (now : Instant) (name email groups expiry : Option String) : Option Session := do
  let name ← name
  let email ← email
  let groups ← groups
  let expiry ← expiry
  if name.isEmpty || email.isEmpty then none
  else
    let expireAt ← Instant.strict? expiry
    if now.before expireAt then some ⟨name, email, splitGroups groups, expireAt⟩ else none

/-- The session that can be read from a storage. -/
def load (now : Instant) (s : Storage) : Except StorageError (Option Session) := do
  let name ← s.get nameKey
  let email ← s.get emailKey
  let groups ← s.get groupsKey
  let expiry ← s.get expiryKey
  return session? now name email groups expiry

def isAvailable (now : Instant) (s : Storage) : Except StorageError Bool :=
  (load now s).map Option.isSome

/-- Writes the snapshot of an answer of the registry; a failed one leaves the storage alone. -/
def refresh (now : Instant) (ttl : Instant.Span) (answer : Envelope SessionDetails) (s : Storage) :
    Except StorageError Unit × Storage :=
  match answer with
  | .ok details => s.setAll (itemsOf details (now.add ttl))
  | .error .. => (.ok (), s)

/-- Drops the snapshot once the registry has cleared its session. -/
def clear (answer : Envelope Bool) (s : Storage) : Except StorageError Unit × Storage :=
  match answer with
  | .ok _ => s.removeAll keys
  | .error .. => (.ok (), s)

end Snapshot

end RegistryConsole
