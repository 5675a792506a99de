import RegistryConsole.Proofs.Console.Persistence
import RegistryConsole.Proofs.Console.Serve
/-!
# Behind the guard

What is left of a request once its guard has let it through: its page, which is made for a named
user. All that the guard has asked until then, it has asked by the method of fetching.
-/
namespace RegistryConsole

open Registry Dialogue

variable {σ : Type}

theorem Navigation.userName_of_admission {n : Navigation} {fallback : String}
    (h : n.admission fallback = .ok .proceed) : ∃ userName, n.userName = .ok userName := by
  rw [admission] at h
  cases hread : n.readSession with
  | error e =>
      rw [hread] at h
      cases h
  | ok found => exact ⟨_, by rw [userName, session, hread]; rfl⟩

/-- A guard that lets a user through leaves a navigation that names the user, and has asked no more
than to prepare it. -/
theorem Route.proceeds_signedIn {registry : Responder σ} {n : Navigation} {s : σ}
    {name fallback : String}
    (h : (result registry ((make name signedIn fallback).guard.evaluate n) s).1 = .ok .proceed) :
    ∃ n' userName, result registry ((make name signedIn fallback).guard.evaluate n) s =
      (.ok .proceed, n') ∧ n'.userName = .ok userName ∧ n'.clients = n.clients ∧
      ∀ call ∈ calls registry ((make name signedIn fallback).guard.evaluate n) s,
        call.method = .get := by
  obtain ⟨loaded, cache, storage, hframe⟩ := n.prepare_frame registry s
  have hquiet (n : Navigation) : Guard.run fallback (signedIn.map Condition.precondition) n =
      .done (n.admission fallback, n) :=
    Guard.run_signedIn fallback n
  rw [Route.evaluate_of_quiet hquiet, result_map] at h ⊢
  rw [calls_map]
  dsimp only at h ⊢
  have hcalls : ∀ call ∈ calls registry n.prepare s, call.method = .get :=
    fun call hcall => (Navigation.prepare_calls registry n s call hcall).elim And.left And.left
  cases hprepared : (result registry n.prepare s).1 with
  | error e =>
      rw [hprepared] at h
      cases h
  | ok done =>
      rw [hprepared] at h
      obtain ⟨userName, huser⟩ := Navigation.userName_of_admission h
      exact ⟨_, userName, Prod.ext h rfl, huser, by rw [hframe], hcalls⟩

namespace Console

open Route

variable {registry : Responder σ} {s : σ} {c : Console} {now : Instant} {draws : Draws}
variable {request : Http.Request} {page : Navigation → Dialogue Pages.Reply}

/-- The guard that a request comes to lets it through. -/
def Proceeds (registry : Responder σ) (s : σ) (c : Console) (now : Instant)
    (request : Http.Request) : Prop :=
  ∃ route page, gate request = some (route, page) ∧
    (result registry (route.guard.evaluate (c.start now request)) s).1 = .ok .proceed

/-- A request that was answered by its page for a user, once the guard had asked for what it needs
to let the user through. -/
structure Served (registry : Responder σ) (s : σ) (c : Console) (now : Instant) (draws : Draws)
    (request : Http.Request) (page : Navigation → Dialogue Pages.Reply) (n : Navigation)
    (userName : String) (before : List Registry.Request) : Prop where
  named : n.userName = .ok userName
  guard : ∀ route page', gate request = some (route, page') →
    before = Dialogue.calls registry (route.guard.evaluate (c.start now request)) s
  clients : n.clients = (c.start now request).clients
  fetches : ∀ call ∈ before, call.method = .get
  calls : calls registry (c.serve now draws request) s =
    before ++ Dialogue.calls registry (page n) (after registry s before)
  response : ∃ headers, (result registry (c.serve now draws request) s).1 =
    { responseOf (result registry (page n) (after registry s before)) with headers }
  redirect? : (result registry (c.serve now draws request) s).1.redirect? =
    (responseOf (result registry (page n) (after registry s before))).redirect?

theorem serve_of_proceeds (draws : Draws) {endpoint : Endpoint}
    (hgate : gate request = some (.of endpoint, page))
    (hendpoint : endpoint ∉ [.login, .logout, .forbidden])
    (hmethod : request.method ≠ Place.headMethod)
    (hproceeds : c.Proceeds registry s now request) :
    ∃ n userName before, Served registry s c now draws request page n userName before := by
  obtain ⟨route, page', hgate', hproceeds⟩ := hproceeds
  rw [hgate] at hgate'
  cases hgate'
  obtain ⟨name, hroute⟩ := Route.of_eq_signedIn hendpoint
  rw [hroute] at hgate hproceeds
  obtain ⟨n, userName, hevaluate, huser, hclients, hbefore⟩ := Route.proceeds_signedIn hproceeds
  have hserve : c.serve now draws request = _ := serve_of_gate_of_ne_head hgate hmethod c
  have hvisit : result registry (visit (make name signedIn loginPath) page (c.start now request))
      s = ⟨responseOf (result registry (page n) (endState registry
        ((make name signedIn loginPath).guard.evaluate (c.start now request)) s)),
        ⟨name, "proceed"⟩, n⟩ := by
    rw [visit_eq, result_bind, hevaluate, conclude, result_map]
    rfl
  refine ⟨n, userName, _, huser, fun route page' hfound => ?_, hclients, hbefore, ?_, ?_, ?_⟩
  · rw [hgate] at hfound
    cases hfound
    rfl
  · rw [hserve, calls_map, visit_eq, calls_bind, hevaluate, conclude, calls_map,
      endState_eq_after]
  · rw [hserve, result_map, hvisit, ← endState_eq_after]
    exact finish_frame c now draws request _ _ _ _
  · rw [hserve, result_map, hvisit, ← endState_eq_after, finish_redirect?]

/-- A console that remembers Ada, with the address where her session is kept. -/
def remembering : Console where
  settings := { registry := { url := "http://registry" } }
  cache :=
    { path := "/internal/runtime.json"
      defaults := {}
      resolved := some (.resolve { auth := { sessionEndpoint := "https://login/session" } } {}) }
  records := [("AAAAAAAAAAAAAAAAAAAAAA",
    (Snapshot.itemsOf ⟨"Ada", "ada@example.org", [], none⟩ ⟨60, 0⟩).map fun item =>
      (item.1, .string item.2))]

end Console

end RegistryConsole
