import RegistryConsole.Console.Pages
import RegistryConsole.Proofs.Text.Split
/-!
# The places of forms

The forms of the settings page are posted to six kinds of paths. What such a path names between its
fixed segments reaches the endpoint in the same order, whatever it is, be it empty or one of the
words that the fixed segments are made of.
-/
namespace RegistryConsole

open Text Route

/-- What a form of the settings page acts on, by what is named there: identifiers, or the segments
that a path has for them. -/
inductive Control (α : Type) where
  | createAuthority
  | deleteAuthority (authority : α)
  | createKey (authority : α)
  | deleteKey (authority key : α)
  | createApiKey (authority : α)
  | deleteApiKey (authority key : α)
  deriving DecidableEq, Repr

namespace Control

variable {α β : Type}

def map (f : α → β) : Control α → Control β
  | createAuthority => createAuthority
  | deleteAuthority a => deleteAuthority (f a)
  | createKey a => createKey (f a)
  | deleteKey a k => deleteKey (f a) (f k)
  | createApiKey a => createApiKey (f a)
  | deleteApiKey a k => deleteApiKey (f a) (f k)

/-- What is named, the authority first. -/
def names : Control α → List α
  | createAuthority => []
  | deleteAuthority a | createKey a | createApiKey a => [a]
  | deleteKey a k | deleteApiKey a k => [a, k]

def endpoint : Control α → Endpoint
  | createAuthority => .createAuthority
  | deleteAuthority _ => .deleteAuthority
  | createKey _ => .createKey
  | deleteKey .. => .deleteKey
  | createApiKey _ => .createApiKey
  | deleteApiKey .. => .deleteApiKey

/-- What is named, by the parameters of the endpoint. -/
def arguments : Control α → List (String × α)
  | createAuthority => []
  | deleteAuthority a | createKey a | createApiKey a => [(Endpoint.authorityId, a)]
  | deleteKey a k => [(Endpoint.authorityId, a), (Endpoint.keyId, k)]
  | deleteApiKey a k => [(Endpoint.authorityId, a), (Endpoint.apiKeyId, k)]

/-- The segments of the path that a form is posted to. -/
def segments (c : Control (List Char)) : List (List Char) :=
  ["settings".toList, "authorities".toList] ++
    match c with
    | createAuthority => []
    | deleteAuthority a => [a, "delete".toList]
    | createKey a => [a, "keys".toList]
    | deleteKey a k => [a, "keys".toList, k, "delete".toList]
    | createApiKey a => [a, "api-keys".toList]
    | deleteApiKey a k => [a, "api-keys".toList, k, "delete".toList]

def path (c : Control (List Char)) : List Char :=
  '/' :: join ['/'] c.segments

theorem names_map (f : α → β) (c : Control α) : (c.map f).names = c.names.map f := by
  cases c <;> rfl

theorem endpoint_map (f : α → β) (c : Control α) : (c.map f).endpoint = c.endpoint := by
  cases c <;> rfl

theorem endpoint_signedIn (c : Control α) : c.endpoint ∉ [.login, .logout, .forbidden] := by
  cases c <;> simp [endpoint]

theorem methods_endpoint (c : Control α) :
    (Place.guarded c.endpoint).methods = ["POST"] := by
  cases c <;> rfl

private theorem segments_of_segments? {c : Control (List Char)} (h : ∀ s ∈ c.names, '/' ∉ s) :
    segments? c.path = some c.segments := by
  have hslash : ∀ s ∈ c.segments, '/' ∉ s := by
    cases c <;> simp_all [names, segments]
  rw [path, segments?, split_join _ hslash]
  exact List.cons_ne_nil _ _

theorem ofPath?_path {c : Control (List Char)} (h : ∀ s ∈ c.names, '/' ∉ s) :
    Place.ofPath? c.path = some (.guarded c.endpoint, c.arguments) := by
  rw [Place.ofPath?, segments_of_segments? h, Option.bind_some]
  -- only whether a segment is empty matters for the patterns
  cases c with
  | createAuthority => rfl
  | deleteAuthority a | createKey a | createApiKey a => cases a <;> rfl
  | deleteKey a k | deleteApiKey a k => cases a <;> cases k <;> rfl

theorem decodeArguments_of_map {written : Control (List Char)} {c : Control String}
    (h : written.map Percent.decodeText? = c.map some) :
    Pages.decodeArguments written.arguments = .ok c.arguments := by
  cases written <;> cases c <;> simp only [map, reduceCtorEq] at h
  case createAuthority.createAuthority => rfl
  case deleteAuthority.deleteAuthority | createKey.createKey | createApiKey.createApiKey =>
    simp only [deleteAuthority.injEq, createKey.injEq, createApiKey.injEq] at h
    simp only [arguments, Pages.decodeArguments, h]
    rfl
  case deleteKey.deleteKey | deleteApiKey.deleteApiKey =>
    simp only [deleteKey.injEq, deleteApiKey.injEq] at h
    simp only [arguments, Pages.decodeArguments, h]
    rfl

end Control

end RegistryConsole
