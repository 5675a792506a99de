import RegistryConsole.Console.Counters
import RegistryConsole.Console.Pages
import RegistryConsole.Console.SessionCookie
/-!
# The console

What the console keeps between requests: the runtime document once it was obtained, the records of
the browsers' sessions, and the counters. A request is answered by `Console.serve`, which asks the
registry as it needs to.
-/
namespace RegistryConsole

open Registry Route

structure Console where
  settings : Settings
  cache : RuntimeCache
  records : SessionRecords := []
  /-- There are none before they are registered. -/
  counters : Option Counters := some {}

/-- What is drawn for one request: nothing that it brings decides it. -/
structure Draws where
  /-- The id of a session record, should one be made. -/
  sessionId : String
  /-- The id of a request that brings none. -/
  requestId : String
  /-- How long the request takes to answer, in nanoseconds. -/
  elapsed : Nat := 0

namespace Console

def ofSettings (settings : Settings) : Console :=
  { settings, cache := { path := settings.registry.runtimePath, defaults := settings.defaults } }

/-- The console with its counters registered. Those that are registered already go on. -/
def registered (c : Console) : Console :=
  { c with counters := some (c.counters.getD {}) }

def navigation (c : Console) (now : Instant) (presented : SessionCookie.Presented)
    (request : Http.Request) : Navigation :=
  { path := request.path
    clients := { registryUrl := c.settings.registry.url, cookie := request.headers.get? "cookie" }
    storage := { items := presented.record.getD [] }
    cache := c.cache
    now
    ttl := .ofSeconds c.settings.session.ttlSeconds }

def outcomeName : Except ConsoleError Outcome → String
  | .ok .proceed => "proceed"
  | .ok (.redirect _) => "redirect"
  | .error _ => "error"

/-- What comes of a guarded request: its response, how the guard decided and what the guard made
of the navigation. -/
structure Visit where
  response : Http.Response
  outcome : OutcomeLabel
  navigation : Navigation

def responseOf : Pages.Reply → Http.Response
  | .ok response => response
  | .error e => .ofError e

/-- Runs the guard of a route, and then the page if the guard lets the navigation through. -/
def visit (route : Route) (page : Navigation → Dialogue Pages.Reply) (n : Navigation) :
    Dialogue Visit := do
  let (result, n) ← route.guard.evaluate n
  let outcome := ⟨route.name, outcomeName result⟩
  match result with
  | .ok .proceed => (page n).map fun reply => ⟨responseOf reply, outcome, n⟩
  | .ok (.redirect target) => return ⟨.redirect target, outcome, n⟩
  | .error e => return ⟨.ofError e, outcome, n⟩

def probe (c : Console) : Probe → Http.Response
  | .health => .text 200 "OK"
  | .metrics =>
    match c.counters with
    | some counters => .text 200 counters.text
    | none => .ofError (.internal "metrics registry not initialized")

/-- The response to a request, with the visit it was if it came to a guard. -/
def respond (request : Http.Request) (place : Option (Place × Arguments)) (c : Console)
    (n : Navigation) : Dialogue (Http.Response × Option Visit) :=
  match place with
  | none => (visit .unknown (fun n => pure (Pages.notFound n)) n).map fun v => (v.response, some v)
  | some (place, arguments) =>
    let trimmed (r : Http.Response) : Http.Response :=
      if request.method = Place.headMethod then r.withoutBody else r
    if !place.methods.contains request.method then
      pure (.wrongMethod (",".intercalate place.methods), none)
    else
      match place with
      | .unguarded probe => pure (trimmed (c.probe probe), none)
      | .guarded endpoint =>
        (visit (.of endpoint) (Pages.answer endpoint arguments request) n).map fun v =>
          (trimmed v.response, some v)

def securityHeaders : Http.Headers := [
  ("x-content-type-options", "nosniff"),
  ("referrer-policy", "same-origin"),
  ("content-security-policy",
    "default-src 'self'; style-src 'self' 'unsafe-inline'; img-src 'self' data:; " ++
      "form-action 'self'; frame-ancestors 'none'"),
  ("x-frame-options", "DENY")]

def requestIdHeader : String := "x-request-id"

/-- The id of a request: its own if that is text, else the one drawn for it. -/
def requestId (draws : Draws) (request : Http.Request) : String :=
  ((request.headers.get? requestIdHeader).bind Http.textValue?).getD draws.requestId

/-- Puts what was settled of the session into the response and the records. -/
def applySettlement (c : Console) (now : Instant) (items : SessionRecord)
    (response : Http.Response) : SessionCookie.Settlement → Http.Response × Console
  | .untouched => (response, c)
  | .removed => (response.set "set-cookie" (SessionCookie.removal now), c)
  | .saved id =>
    (response.set "set-cookie" (SessionCookie.text c.settings.server.secureCookies id),
      { c with records := c.records.save id items })

/-- Counts and times a request and, if it came to a guard, counts how that decided. -/
def count (c : Console) (label : RequestLabel) (elapsed : Nat) (outcome : Option OutcomeLabel) :
    Console :=
  { c with counters := c.counters.map fun counters =>
      (outcome.elim counters counters.countOutcome).countRequest label elapsed }

/-- Ends a request: what the guard obtained is kept, the session is settled, the response gets its
headers, and the request is counted and timed. -/
def finish (c : Console) (now : Instant) (draws : Draws) (request : Http.Request)
    (place : Option (Place × Arguments)) (presented : SessionCookie.Presented)
    (response : Http.Response) (visit : Option Visit) : Http.Response × Console :=
  let cache := (visit.map (·.navigation.cache)).getD c.cache
  let storage := (visit.map (·.navigation.storage)).getD {}
  let consulted := visit.any (·.navigation.hasSession)
  let settlement := SessionCookie.settle presented consulted storage.changed storage.items
    response.status draws.sessionId
  let (response, c) := { c with cache }.applySettlement now storage.items response settlement
  let response := securityHeaders.foldl (fun r (name, value) => r.set name value) response
  let response := response.set requestIdHeader (requestId draws request)
  let path := (place.map (·.1.pattern.text)).getD Counters.unmatched
  let label : RequestLabel := ⟨request.method, path, response.status⟩
  (response, c.count label draws.elapsed (visit.map (·.outcome)))

def serve (now : Instant) (draws : Draws) (request : Http.Request) (c : Console) :
    Dialogue (Http.Response × Console) :=
  let place := Place.ofPath? request.path.toList
  let presented := SessionCookie.present request.headers c.records
  (c.respond request place (c.navigation now presented request)).map fun (response, visit) =>
    c.finish now draws request place presented response visit

end Console

end RegistryConsole
