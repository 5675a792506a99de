import RegistryConsole.Registry.Artifacts
import RegistryConsole.Registry.Authorities
import RegistryConsole.RuntimeDocument
import RegistryConsole.Session.Details
/-!
# The registry of a deployment

All clients of one registry with the cookies of one browser, the session endpoints that its
runtime document announces, and the cache of that document. The document is asked for until it
has been obtained once.
-/
namespace RegistryConsole.Registry

open Json

structure Clients where
  registryUrl : String
  cookie : Option String := none
  deriving DecidableEq, Repr

namespace Clients

/-- Authorities, signing keys and API keys share a base path. -/
def authorities (c : Clients) : Client :=
  (Client.under c.registryUrl authoritiesPath).forwarding c.cookie

def artifacts (c : Clients) : Client :=
  (Client.under c.registryUrl artifactsPath).forwarding c.cookie

/-- For paths outside the resource groups. -/
def root (c : Clients) : Client :=
  (Client.under c.registryUrl "").forwarding c.cookie

/-- Who is signed in, by the endpoint of a configuration. -/
def getSession (c : Clients) (runtime : RuntimeConfiguration) :
    Dialogue (Envelope SessionDetails) :=
  c.root.get runtime.sessionEndpoint SessionDetails.decode

def clearSession (c : Clients) (runtime : RuntimeConfiguration) : Dialogue (Envelope Bool) :=
  c.root.delete runtime.clearEndpoint decodeBool

end Clients

/-- The runtime document of a registry: where it is, what stands in for it, and what was resolved
from it once it was obtained. -/
structure RuntimeCache where
  path : String
  defaults : RuntimeDefaults
  resolved : Option RuntimeConfiguration := none
  deriving DecidableEq, Repr

namespace RuntimeCache

/-- Keeps what a document resolves to. -/
def store (cache : RuntimeCache) (document : RuntimeDocument) :
    RuntimeConfiguration × RuntimeCache :=
  let runtime := RuntimeConfiguration.resolve document cache.defaults
  (runtime, { cache with resolved := some runtime })

/-- Asks for the document and keeps it; a failure leaves the cache as it is. -/
def refresh (cache : RuntimeCache) (root : Client) :
    Dialogue (Option RuntimeConfiguration × RuntimeCache) :=
  (root.get cache.path RuntimeDocument.decode).map fun
    | .ok document =>
      let (runtime, cache) := cache.store document
      (some runtime, cache)
    | .error .. => (none, cache)

/-- The configuration, asked for unless it is kept. -/
def init (cache : RuntimeCache) (root : Client) :
    Dialogue (Option RuntimeConfiguration × RuntimeCache) :=
  match cache.resolved with
  | some runtime => .done (some runtime, cache)
  | none => cache.refresh root

end RuntimeCache

end RegistryConsole.Registry
