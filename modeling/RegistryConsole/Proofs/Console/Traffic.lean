import RegistryConsole.Proofs.Console.Discretion
/-!
# Traffic

What one console exchanges with its browsers and with the registry, request after request. Two
registries that differ in the payloads of their failures only lead to the same traffic, so nothing
that the registry sends with a failure reaches a browser.
-/
namespace RegistryConsole

open Registry Dialogue

/-- A request as it comes to the console, with what is drawn for it: ids, and the time it takes. -/
structure Arrival where
  /-- The browser that sends it, which the console does not see. -/
  browser : Nat
  now : Instant
  draws : Draws
  request : Http.Request

structure Exchange where
  arrival : Arrival
  response : Http.Response
  /-- What the registry is asked on behalf of the request. -/
  calls : List Registry.Request

namespace Console

variable {σ τ : Type}

def answering (c : Console) (a : Arrival) : Dialogue (Http.Response × Console) :=
  c.serve a.now a.draws a.request

theorem answering_of_unguarded {a : Arrival} {answer : Console → Http.Response}
    (h : Unguarded a.request answer) (c : Console) : c.answering a =
      .done (c.finish a.now a.draws a.request (Route.Place.ofPath? a.request.path.toList)
        (SessionCookie.present a.request.headers c.records) (answer c) none) :=
  serve_of_unguarded h c

theorem answering_of_gate {a : Arrival} {route : Route} {page : Navigation → Dialogue Pages.Reply}
    (h : gate a.request = some (route, page)) :
    ∃ trimmed : Http.Response → Http.Response, (∀ r, SameHead (trimmed r) r) ∧
      ∀ c : Console, c.answering a = (visit route page (c.start a.now a.request)).map fun v =>
        c.finish a.now a.draws a.request (Route.Place.ofPath? a.request.path.toList)
          (SessionCookie.present a.request.headers c.records) (trimmed v.response) (some v) :=
  serve_of_gate h

def exchange (registry : Responder σ) (a : Arrival) (c : Console) (s : σ) : Exchange :=
  ⟨a, (result registry (c.answering a) s).1, calls registry (c.answering a) s⟩

def exchanges (registry : Responder σ) : List Arrival → Console → σ → List Exchange
  | [], _, _ => []
  | a :: rest, c, s =>
    c.exchange registry a s ::
      exchanges registry rest (result registry (c.answering a) s).2
        (endState registry (c.answering a) s)

@[simp] theorem exchange_arrival (registry : Responder σ) (a : Arrival) (c : Console) (s : σ) :
    (c.exchange registry a s).arrival = a := rfl

theorem map_arrival_exchanges (registry : Responder σ) (arrivals : List Arrival) (c : Console)
    (s : σ) : (c.exchanges registry arrivals s).map Exchange.arrival = arrivals := by
  induction arrivals generalizing c s with
  | nil => rfl
  | cons a rest ih => rw [exchanges, List.map_cons, ih, exchange_arrival]

theorem arrival_mem_of_mem_exchanges {registry : Responder σ} {arrivals : List Arrival}
    {c : Console} {s : σ} {e : Exchange} (h : e ∈ c.exchanges registry arrivals s) :
    e.arrival ∈ arrivals := by
  rw [← map_arrival_exchanges registry arrivals c s]
  exact List.mem_map_of_mem h

theorem exists_of_mem_exchanges {registry : Responder σ} {arrivals : List Arrival} {c : Console}
    {s : σ} {e : Exchange} (h : e ∈ c.exchanges registry arrivals s) :
    ∃ (c' : Console) (s' : σ), e = c'.exchange registry e.arrival s' := by
  induction arrivals generalizing c s with
  | nil => cases h
  | cons a rest ih =>
      rw [exchanges, List.mem_cons] at h
      rcases h with rfl | h
      · exact ⟨c, s, rfl⟩
      · exact ih h

/-- The console exchanges the same with two registries that give alike answers to its requests. The
time that a request takes is drawn for it, so the counters tell the same of it too. -/
theorem exchanges_of_repliesAlike {registry : Responder σ} {registry' : Responder τ}
    (arrivals : List Arrival) (c : Console) (s : σ) (s' : τ)
    (h : RepliesAlike registry s registry' s'
      ((c.exchanges registry arrivals s).flatMap Exchange.calls)) :
    c.exchanges registry' arrivals s' = c.exchanges registry arrivals s := by
  induction arrivals generalizing c s s' with
  | nil => rfl
  | cons a rest ih =>
      rw [exchanges, List.flatMap_cons] at h
      have halike : (c.answering a).Discreet _ _ := c.serve_discreet a.now a.draws a.request
      obtain ⟨hcalls, hresult, -⟩ := halike.play h.left
      -- the second registry is in the state that it came to by the requests of the first
      have hlater := h.right
      rw [exchange, ← endState_eq_after] at hlater
      have hstate : after registry' s' (calls registry (c.answering a) s) =
          endState registry' (c.answering a) s' := by
        rw [endState_eq_after]
        exact congrArg (after registry' s') hcalls
      rw [hstate] at hlater
      have hanswered : result registry' (c.answering a) s' = result registry (c.answering a) s :=
        hresult.symm
      have hcalls' : calls registry' (c.answering a) s' = calls registry (c.answering a) s :=
        hcalls.symm
      rw [exchanges, exchanges, exchange, exchange, hanswered, hcalls', ih _ _ _ hlater]

private def troubled (trouble : String) : Responder Unit := fun _ call =>
  (if call.url.path = ["internal".toList, "runtime.json".toList] then
    .response 200 (Text.Utf8.encode "\x7b\"auth\":\x7b\"sessionEndpoint\":\"/session\"\x7d\x7d")
  else if call.url.path = ["session".toList] then
    .response 200 (Text.Utf8.encode "\x7b\"name\":\"Ada\",\"email\":\"ada@example.org\"\x7d")
  else .response 503 (Text.Utf8.encode trouble), ())

private theorem troubled_repliesAlike (trouble trouble' : String) (asked : List Registry.Request) :
    RepliesAlike (troubled trouble) () (troubled trouble') () asked := by
  intro history call _
  simp only [troubled]
  split
  · exact .same _
  · split
    · exact .same _
    · exact .failed (by decide) _ _

private def atModule : List Arrival :=
  [{ browser := 0
     now := ⟨0, 0⟩
     draws := ⟨"AAAAAAAAAAAAAAAAAAAAAA", "1", 26000000⟩
     request := { method := "GET", target := "/modules/acme/vpc/aws" } },
   { browser := 0
     now := ⟨1, 0⟩
     draws := ⟨"AAAAAAAAAAAAAAAAAAAAAQ", "2", 1000000⟩
     request := { method := "GET", target := "/metrics" } }]

private def fresh : Console :=
  .ofSettings { registry := { url := "http://registry" } }

/-- The page of a module that the registry fails to deliver tells nothing of its stack trace, and
neither do the counters after it. -/
theorem exchanges_of_repliesAlike_troubled :
    (fresh.exchanges (troubled "at line 1") atModule ()).map
        (fun e => (e.response.status, e.calls.length)) = [(502, 3), (200, 0)] ∧
      fresh.exchanges (troubled "at line 2") atModule () =
        fresh.exchanges (troubled "at line 1") atModule () := by
  refine ⟨by decide +kernel, ?_⟩
  exact exchanges_of_repliesAlike atModule fresh () () (troubled_repliesAlike _ _ _)

end Console

end RegistryConsole
