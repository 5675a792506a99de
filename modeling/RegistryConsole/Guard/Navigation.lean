import RegistryConsole.ConsoleError
import RegistryConsole.Registry.Deployment
import RegistryConsole.Session.Snapshot
/-!
# Navigations

Everything the checks and the page of one request may use: the registry with the browser's
cookies, the browser's session storage, the cache of the runtime document and the time. The
session is asked for at the endpoint that the runtime document announces; without one there is no
session.
-/
namespace RegistryConsole

open Registry

/-- Answers to the calls on the session that are known beforehand. -/
structure SessionAnswers where
  session : Envelope SessionDetails
  clear : Envelope Bool

/-- The answers that follow an attempt to clear the session: nobody is signed in once it has
succeeded. -/
def SessionAnswers.afterClear (a : SessionAnswers) : SessionAnswers :=
  if a.clear.isOk then { a with session := .failed (some 401) none } else a

/-- Where the answers to the calls on the session come from. -/
inductive SessionSource where
  /-- From the endpoints of the runtime document. -/
  | announced
  | given (answers : SessionAnswers)

structure Navigation where
  path : String
  clients : Clients
  storage : Storage
  cache : RuntimeCache
  now : Instant
  /-- How long a snapshot of the session lasts. -/
  ttl : Instant.Span
  /-- The configuration, once a check has obtained it. -/
  loaded : Option RuntimeConfiguration := none
  source : SessionSource := .announced

namespace Navigation

/-- The configuration of this navigation, resolved from the defaults while none was obtained. -/
def runtime (n : Navigation) : RuntimeConfiguration :=
  n.loaded.getD (.fallback n.cache.defaults)

def hasSession (n : Navigation) : Bool :=
  match n.source with
  | .given _ => true
  | .announced => !n.runtime.sessionEndpoint.isEmpty

def askSession (n : Navigation) : Dialogue (Envelope SessionDetails) :=
  match n.source with
  | .given answers => pure answers.session
  | .announced => n.clients.getSession n.runtime

def askClear (n : Navigation) : Dialogue (Envelope Bool × Navigation) :=
  match n.source with
  | .given answers => pure (answers.clear, { n with source := .given answers.afterClear })
  | .announced => (n.clients.clearSession n.runtime).map fun answer => (answer, n)

/-- Obtains the configuration, from the cache if it is there. -/
def loadRuntime (n : Navigation) : Dialogue Navigation :=
  (n.cache.init n.clients.root).map fun (loaded, cache) => { n with loaded, cache }

/-- Renews the snapshot from the registry's session. -/
def refreshSession (n : Navigation) : Dialogue (Except StorageError Unit × Navigation) :=
  if n.hasSession then
    n.askSession.map fun answer =>
      let (result, storage) := Snapshot.refresh n.now n.ttl answer n.storage
      (result, { n with storage })
  else pure (.ok (), n)

/-- Clears the registry's session, and the snapshot with it. -/
def clearSession (n : Navigation) : Dialogue (Except StorageError Unit × Navigation) :=
  if n.hasSession then
    n.askClear.map fun (answer, n) =>
      let (result, storage) := Snapshot.clear answer n.storage
      (result, { n with storage })
  else pure (.ok (), n)

def readSession (n : Navigation) : Except StorageError (Option Session) :=
  if n.hasSession then Snapshot.load n.now n.storage else .ok none

def session (n : Navigation) : Except ConsoleError (Option Session) :=
  n.readSession.mapError fun e => .session e.message

/-- The name of the user, empty if nobody is signed in. -/
def userName (n : Navigation) : Except ConsoleError String :=
  n.session.map fun s => (s.map Session.userName).getD ""

end Navigation

end RegistryConsole
