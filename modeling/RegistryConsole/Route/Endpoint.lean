import RegistryConsole.Route.Pattern
/-!
# Endpoints

The places of the console a request can be for, each under a pattern of its own. No path matches
two of them. Endpoints have routes that guard them, probes are open to everyone. Forms are
posted, everything else is fetched.
-/
namespace RegistryConsole.Route

inductive Endpoint where
  | home
  | login
  | logout
  | forbidden
  | settings
  | createAuthority
  | deleteAuthority
  | createKey
  | deleteKey
  | createApiKey
  | deleteApiKey
  | module
  | moduleVersion
  | provider
  | providerVersion
  deriving DecidableEq, Repr

/-- What tells of the console itself. -/
inductive Probe where
  | health
  | metrics
  deriving DecidableEq, Repr

inductive Place where
  | guarded (endpoint : Endpoint)
  | unguarded (probe : Probe)
  deriving DecidableEq, Repr

namespace Endpoint

def all : List Endpoint := [
  home, login, logout, forbidden, settings, createAuthority, deleteAuthority, createKey,
  deleteKey, createApiKey, deleteApiKey, module, moduleVersion, provider, providerVersion]

def authorityId : String := "authority_id"

def keyId : String := "key_id"

def apiKeyId : String := "api_key_id"

def namespaceName : String := "namespace"

def artifactName : String := "name"

def providerName : String := "provider"

def versionName : String := "version"

private def authoritySegments : Pattern :=
  [.literal "settings", .literal "authorities"]

private def authority : Pattern :=
  authoritySegments ++ [.parameter authorityId]

private def moduleSegments : Pattern :=
  [.literal "modules", .parameter namespaceName, .parameter artifactName,
    .parameter providerName]

private def providerSegments : Pattern :=
  [.literal "providers", .parameter namespaceName, .parameter artifactName]

def pattern : Endpoint → Pattern
  | home => [.literal ""]
  | login => [.literal "login"]
  | logout => [.literal "logout"]
  | forbidden => [.literal "forbidden"]
  | settings => [.literal "settings"]
  | createAuthority => authoritySegments
  | deleteAuthority => authority ++ [.literal "delete"]
  | createKey => authority ++ [.literal "keys"]
  | deleteKey => authority ++ [.literal "keys", .parameter keyId, .literal "delete"]
  | createApiKey => authority ++ [.literal "api-keys"]
  | deleteApiKey => authority ++ [.literal "api-keys", .parameter apiKeyId, .literal "delete"]
  | module => moduleSegments
  | moduleVersion => moduleSegments ++ [.parameter versionName]
  | provider => providerSegments
  | providerVersion => providerSegments ++ [.parameter versionName]

/-- Whether forms are posted to an endpoint. -/
def isPosted : Endpoint → Bool
  | createAuthority | deleteAuthority | createKey | deleteKey | createApiKey | deleteApiKey => true
  | _ => false

end Endpoint

def Probe.pattern : Probe → Pattern
  | .health => [.literal "health"]
  | .metrics => [.literal "metrics"]

namespace Place

def all : List Place :=
  Endpoint.all.map guarded ++ [unguarded .health, unguarded .metrics]

def pattern : Place → Pattern
  | guarded endpoint => endpoint.pattern
  | unguarded probe => probe.pattern

def isPosted : Place → Bool
  | guarded endpoint => endpoint.isPosted
  | unguarded _ => false

def headMethod : String := "HEAD"

def methods (p : Place) : List String :=
  if p.isPosted then ["POST"] else ["GET", headMethod]

/-- The place a path is for, with the arguments of its pattern. -/
def ofPath? (path : List Char) : Option (Place × Arguments) :=
  (segments? path).bind fun segments =>
    all.findSome? fun p => (p.pattern.match? segments).map (p, ·)

end Place

end RegistryConsole.Route
