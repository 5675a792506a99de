import RegistryConsole.Json.Basic
import RegistryConsole.Url.Basic
/-!
# Dialogues with the registry

A computation that may put requests to the registry: it is done, or it asks and goes on with the
answer. What it asks can depend on the answers, so a dialogue is a tree, and a statement about all
registries is an induction on it. `Dialogue.run` plays a dialogue against one registry that keeps
a state of its own.

One `ask` is one request that is given to the HTTP client to send, and its `Answer` is what the
client gives back. Where the registry redirects, the client goes after that by itself: what it sends
then is not asked here, and the redirects are part of how the client came to the answer.
-/
namespace RegistryConsole.Registry

inductive Method where
  | get
  | post
  | patch
  | delete
  deriving DecidableEq, Repr

def Method.text : Method → String
  | .get => "GET"
  | .post => "POST"
  | .patch => "PATCH"
  | .delete => "DELETE"

/-- A request as it is given to the HTTP client. It has the header of a trace in addition
(`Trace.inject`), which depends on the span around it and is left out here. -/
structure Request where
  method : Method
  url : Url
  /-- The browser's cookies, where they are passed on. -/
  cookie : Option String
  body : Option Json

/-- What the HTTP client gives back for a request, after all redirects that it followed. -/
inductive Answer where
  | response (status : Nat) (body : List UInt8)
  /-- The connection ended without an answer. -/
  | nothing
  /-- The answer ended before its announced length. -/
  | cutShort

/-- A computation with requests to the registry. -/
inductive Dialogue (α : Type) where
  | done (result : α)
  | ask (request : Request) (next : Answer → Dialogue α)

namespace Dialogue

def bind {α β : Type} : Dialogue α → (α → Dialogue β) → Dialogue β
  | done a, f => f a
  | ask request next, f => ask request fun answer => bind (next answer) f

instance : Monad Dialogue where
  pure := done
  bind := bind

def map {α β : Type} (f : α → β) (d : Dialogue α) : Dialogue β :=
  bind d fun a => done (f a)

/-- A registry with states in `σ`, seen through the HTTP client. -/
abbrev Responder (σ : Type) := σ → Request → Answer × σ

/-- Plays a dialogue: its result, the requests in their order and the registry's state after. -/
def run {σ α : Type} (registry : Responder σ) : Dialogue α → σ → α × List Request × σ
  | done a, s => (a, [], s)
  | ask request next, s =>
    let (answer, s) := registry s request
    let (a, requests, s) := run registry (next answer) s
    (a, request :: requests, s)

end Dialogue

end RegistryConsole.Registry
