import RegistryConsole.Proofs.Console.Serve
/-!
# Access control

Nothing of the registry's data is asked for, and no page that shows any is made, unless the request
itself has just been found to come from a user whom the registry's configuration admits. The guards
themselves ask for the runtime document, for the session and, to log out, for its removal.
-/
namespace RegistryConsole

open Registry Dialogue Route

/-- The configuration was loaded and announces an endpoint for the session, and the storage holds an
available snapshot of a user whom the configuration admits. -/
def Navigation.Admitted (n : Navigation) : Prop :=
  ∃ runtime session, n.loaded = some runtime ∧ runtime.sessionEndpoint ≠ "" ∧
    Snapshot.Available n.now n.storage session ∧ runtime.isAuthorized session.userName = true

namespace Console

variable {σ : Type} (registry : Responder σ)

/-- The page, if the guard lets the navigation through. -/
def enter (page : Navigation → Dialogue Pages.Reply) :
    Except ConsoleError Outcome × Navigation → Dialogue (Option Pages.Reply)
  | (.ok .proceed, n) => (page n).map some
  | _ => .done none

/-- What became of a request that came to a guard. -/
structure Passage where
  route : Route
  /-- The navigation once the configuration was asked for and the session renewed. -/
  ready : Navigation
  visit : Visit
  /-- What the guard asked the registry. -/
  guardCalls : List Registry.Request
  /-- What the page asked the registry. -/
  pageCalls : List Registry.Request

def Passage.through (s : σ) (n : Navigation) (route : Route)
    (page : Navigation → Dialogue Pages.Reply) : Passage :=
  let guarded := route.guard.evaluate n
  { route
    ready := (result registry n.prepare s).2
    visit := result registry (Console.visit route page n) s
    guardCalls := calls registry guarded s
    pageCalls := calls registry (enter page (result registry guarded s))
      (endState registry guarded s) }

/-- The passage of a request through the guard it comes to, if it comes to one. -/
def passage (s : σ) (c : Console) (now : Instant) (request : Http.Request) : Option Passage :=
  (gate request).map fun (route, page) => .through registry s (c.start now request) route page

/-- The client of the console for paths outside the resource groups. -/
def root (c : Console) : Client :=
  Client.under c.settings.registry.url ""

theorem calls_visit (route : Route) (page : Navigation → Dialogue Pages.Reply) (n : Navigation)
    (s : σ) :
    calls registry (visit route page n) s = calls registry (route.guard.evaluate n) s ++
      calls registry (enter page (result registry (route.guard.evaluate n) s))
        (endState registry (route.guard.evaluate n) s) := by
  rw [visit_eq, calls_bind]
  congr 1
  obtain ⟨decision, left⟩ := result registry (route.guard.evaluate n) s
  cases decision with
  | error e => rfl
  | ok outcome =>
      cases outcome with
      | proceed => simp only [enter, conclude, calls_map]
      | redirect target => rfl

theorem calls_serve (s : σ) (c : Console) (now : Instant) (draws : Draws)
    (request : Http.Request) :
    calls registry (c.serve now draws request) s =
      (c.passage registry s now request).elim [] fun p => p.guardCalls ++ p.pageCalls := by
  rw [passage]
  cases hgate : gate request with
  | none =>
      obtain ⟨answer, hanswer⟩ := exists_unguarded hgate
      rw [serve_of_unguarded hanswer]
      rfl
  | some found =>
      obtain ⟨route, page⟩ := found
      obtain ⟨trimmed, -, hserve⟩ := serve_of_gate hgate
      rw [hserve, calls_map, calls_visit]
      rfl

/-- The guard asks for the document, for the session and for its removal only; the page asks, and
the pages of all endpoints but three are made, only for users who are admitted; and the removal is
asked for only to log a user out. -/
structure Passage.Controlled (c : Console) (now : Instant) (p : Passage) : Prop where
  now_eq : p.ready.now = now
  guardCalls : ∀ call ∈ p.guardCalls, c.root.Sends .get c.cache.path call ∨
    c.root.Sends .get p.ready.runtime.sessionEndpoint call ∨
    c.root.Sends .delete p.ready.runtime.clearEndpoint call
  pageCalls : p.pageCalls ≠ [] → p.ready.Admitted
  page : ∀ endpoint, endpoint ∉ [.login, .logout, .forbidden] → p.route = .of endpoint →
    p.visit.outcome.outcome = "proceed" → p.ready.Admitted
  removal : ∀ call ∈ p.guardCalls, call.method = .delete → p.route = .of .logout ∧
    ∃ session, Snapshot.Available now p.ready.storage session

private theorem not_signedIn_of_conditions {route : Route} {endpoint : Endpoint}
    (h : endpoint ∉ [.login, .logout, .forbidden])
    (hroute : route.conditions ≠ Condition.base ++ signedIn) : route ≠ .of endpoint := by
  rintro rfl
  obtain ⟨name, hname⟩ := Route.of_eq_signedIn h
  exact hroute (by rw [hname]; rfl)

variable {registry} {s : σ} {c : Console} {now : Instant} {request : Http.Request}

theorem visit_outcome (route : Route) (page : Navigation → Dialogue Pages.Reply)
    (n : Navigation) (s : σ) :
    (result registry (Console.visit route page n) s).outcome =
      ⟨route.name, outcomeName (result registry (route.guard.evaluate n) s).1⟩ := by
  rw [visit_eq, result_bind]
  obtain ⟨decision, left⟩ := result registry (route.guard.evaluate n) s
  cases decision with
  | error e => rfl
  | ok outcome =>
      cases outcome with
      | proceed => simp only [conclude, result_map]; rfl
      | redirect target => rfl

private theorem eq_proceed_of_outcomeName {decision : Except ConsoleError Outcome}
    (h : outcomeName decision = "proceed") : decision = .ok .proceed := by
  cases decision with
  | error e => exact absurd h (by decide : ¬ "error" = "proceed")
  | ok outcome =>
      cases outcome with
      | proceed => rfl
      | redirect target => exact absurd h (by decide : ¬ "redirect" = "proceed")

private theorem enter_calls {page : Navigation → Dialogue Pages.Reply}
    {r : Except ConsoleError Outcome × Navigation} {s : σ}
    (h : calls registry (enter page r) s ≠ []) :
    r.1 = .ok .proceed ∧ calls registry (page r.2) s ≠ [] := by
  obtain ⟨decision, left⟩ := r
  cases decision with
  | error e => exact absurd rfl h
  | ok outcome =>
      cases outcome with
      | proceed => exact ⟨rfl, by simpa only [enter, calls_map] using h⟩
      | redirect target => exact absurd rfl h

private theorem admitted_of_admission {n : Navigation} {fallback : String}
    (hsource : n.source = .announced) (h : n.admission fallback = .ok .proceed) : n.Admitted := by
  rw [Navigation.admission] at h
  split at h
  · cases h
  · cases h
  next session hread =>
    obtain ⟨⟨runtime, hloaded, hendpoint⟩, havailable⟩ :=
      Navigation.available_of_readSession hsource hread
    refine ⟨runtime, session, hloaded, hendpoint, havailable, ?_⟩
    by_contra hauth
    simp [Navigation.runtime, hloaded, hauth] at h

section Passages

variable (registry s c now request)

private theorem ready_frame :
    let ready := (result registry (c.start now request).prepare s).2
    ready.now = now ∧ ready.source = .announced ∧
      ready.clients = (c.start now request).clients := by
  obtain ⟨loaded, cache, storage, h⟩ :=
    Navigation.prepare_frame registry (c.start now request) s
  dsimp only
  rw [h]
  exact ⟨rfl, rfl, rfl⟩

private theorem ready_calls :
    ∀ call ∈ calls registry (c.start now request).prepare s,
      c.root.Sends .get c.cache.path call ∨ c.root.Sends .get
        (result registry (c.start now request).prepare s).2.runtime.sessionEndpoint call :=
  Navigation.prepare_calls registry (c.start now request) s

end Passages

private theorem eq_ok_of_bind {result : Except StorageError Unit} {f : StorageError → ConsoleError}
    {decision : Except ConsoleError Outcome} {outcome : Outcome}
    (h : ((result.mapError f).bind fun _ => decision) = .ok outcome) : decision = .ok outcome := by
  cases result with
  | error e => cases h
  | ok done => exact h

/-- A guard whose own conditions ask nothing is controlled if it lets a navigation through only for
a user who is admitted, or to a page that asks nothing. -/
private theorem controlled_of_quiet {own : List Condition} {name fallback : String}
    {page : Navigation → Dialogue Pages.Reply} {decide : Navigation → Except ConsoleError Outcome}
    (hquiet : ∀ n, Guard.run fallback (own.map Condition.precondition) n = .done (decide n, n))
    (hproceed : ∀ n : Navigation, n.source = .announced → decide n = .ok .proceed →
      n.Admitted ∨ (∃ reply, page n = .done reply) ∧
        Condition.base ++ own ≠ Condition.base ++ signedIn) :
    (Passage.through registry s (c.start now request) (.make name own fallback) page).Controlled
      c now := by
  obtain ⟨hnow, hsource, -⟩ := ready_frame registry s c now request
  have heval := Route.evaluate_of_quiet hquiet name (c.start now request)
  have hguard : (Passage.through registry s (c.start now request) (.make name own fallback)
      page).guardCalls = calls registry (c.start now request).prepare s := by
    rw [Passage.through, heval, calls_map]
  have hdecided (hdecision : (result registry ((Route.make name own fallback).guard.evaluate
      (c.start now request)) s).1 = .ok .proceed) := by
    rw [heval, result_map] at hdecision
    exact hproceed _ hsource (eq_ok_of_bind hdecision)
  constructor
  case now_eq => exact hnow
  case guardCalls =>
    intro call hmem
    rw [hguard] at hmem
    exact (ready_calls registry s c now request call hmem).elim .inl fun h => .inr (.inl h)
  case pageCalls =>
    intro hpage
    obtain ⟨hdecision, hasked⟩ := enter_calls hpage
    obtain hadmitted | ⟨⟨reply, hreply⟩, -⟩ := hdecided hdecision
    · exact hadmitted
    · rw [heval, result_map, hreply] at hasked
      exact absurd rfl hasked
  case page =>
    intro endpoint hendpoint hroute houtcome
    change (result registry (Console.visit _ _ _) s).outcome.outcome = "proceed" at houtcome
    rw [visit_outcome] at houtcome
    obtain hadmitted | ⟨-, hown⟩ := hdecided (eq_proceed_of_outcomeName houtcome)
    · exact hadmitted
    · exact absurd hroute (not_signedIn_of_conditions hendpoint hown)
  case removal =>
    intro call hmem hdelete
    rw [hguard] at hmem
    obtain h | h := ready_calls registry s c now request call hmem
    · rw [h.1] at hdelete
      cases hdelete
    · rw [h.1] at hdelete
      cases hdelete

private theorem logout_calls (registry : Responder σ) (n : Navigation) (s : σ)
    (hsource : n.source = .announced) :
    let r := result registry (Guard.run loginPath
      ([.isAuthenticated true, .logOut].map Condition.precondition) n) s
    r.1 ≠ .ok .proceed ∧ ∀ call ∈ calls registry (Guard.run loginPath
      ([.isAuthenticated true, .logOut].map Condition.precondition) n) s,
        n.clients.root.Sends .delete n.runtime.clearEndpoint call ∧
          ∃ session, Snapshot.Available n.now n.storage session := by
  rw [Guard.run_logOut]
  cases hread : n.readSession with
  | error e => simp
  | ok found =>
      cases found with
      | none => simp
      | some session =>
          simp only [result_map, calls_map]
          constructor
          · intro h
            cases hresult : (result registry n.clearSession s).1 with
            | error e =>
                rw [hresult] at h
                cases h
            | ok done =>
                rw [hresult] at h
                cases h
          · intro call hmem
            exact ⟨(n.clearSession_meets.calls registry s call hmem).2, session,
              (Navigation.available_of_readSession hsource hread).2⟩

private theorem controlled_logout (page : Navigation → Dialogue Pages.Reply) :
    (Passage.through registry s (c.start now request) (.of .logout) page).Controlled c now := by
  obtain ⟨hnow, hsource, hclients⟩ := ready_frame registry s c now request
  have heval := Route.evaluate_make loginPath "logout" [.isAuthenticated true, .logOut]
    (c.start now request)
  have hguard : (result registry ((Route.of .logout).guard.evaluate (c.start now request)) s).1 ≠
        .ok .proceed ∧
      ∀ call ∈ calls registry ((Route.of .logout).guard.evaluate (c.start now request)) s,
        call ∈ calls registry (c.start now request).prepare s ∨
          c.root.Sends .delete
            (result registry (c.start now request).prepare s).2.runtime.clearEndpoint call ∧
          ∃ session, Snapshot.Available now
            (result registry (c.start now request).prepare s).2.storage session := by
    rw [Route.of, heval, result_bind, calls_bind]
    have hrest := logout_calls registry _
      (endState registry (c.start now request).prepare s) hsource
    rw [hnow, hclients] at hrest
    generalize result registry (c.start now request).prepare s = ready at hrest ⊢
    obtain ⟨prepared, ready⟩ := ready
    cases prepared with
    | error e => exact ⟨by simp, fun call hmem => .inl (by simpa using hmem)⟩
    | ok done =>
        refine ⟨hrest.1, ?_⟩
        intro call hmem
        exact (List.mem_append.mp hmem).imp_right (hrest.2 call)
  constructor
  case now_eq => exact hnow
  case guardCalls =>
    intro call hmem
    obtain h | ⟨h, -⟩ := hguard.2 call hmem
    · exact (ready_calls registry s c now request call h).elim .inl fun h => .inr (.inl h)
    · exact .inr (.inr h)
  case pageCalls =>
    intro hpage
    exact absurd (enter_calls hpage).1 hguard.1
  case page =>
    intro endpoint hendpoint hroute houtcome
    have hown : (Route.of .logout).conditions ≠ Condition.base ++ signedIn := by decide
    exact absurd hroute (not_signedIn_of_conditions hendpoint hown)
  case removal =>
    intro call hmem hdelete
    obtain h | ⟨-, h⟩ := hguard.2 call hmem
    · obtain h | h := ready_calls registry s c now request call h
      · rw [h.1] at hdelete
        cases hdelete
      · rw [h.1] at hdelete
        cases hdelete
    · exact ⟨rfl, h⟩

private theorem controlled_signedIn (name : String) (page : Navigation → Dialogue Pages.Reply) :
    (Passage.through registry s (c.start now request) (.make name signedIn loginPath)
      page).Controlled c now :=
  controlled_of_quiet (Guard.run_signedIn loginPath) fun _ hsource h =>
    .inl (admitted_of_admission hsource h)

private theorem controlled_isAuthenticated (expected : Bool) (name fallback : String)
    (page : Navigation → Dialogue Pages.Reply) (hpage : ∀ n, ∃ reply, page n = .done reply) :
    (Passage.through registry s (c.start now request)
      (.make name [.isAuthenticated expected] fallback) page).Controlled c now :=
  controlled_of_quiet (Guard.run_isAuthenticated fallback expected) fun n _ _ =>
    .inr ⟨hpage n, by cases expected <;> decide⟩

private theorem controlled_of_gate {route : Route} {page : Navigation → Dialogue Pages.Reply}
    (h : gate request = some (route, page)) :
    (Passage.through registry s (c.start now request) route page).Controlled c now := by
  obtain ⟨-, rfl, rfl⟩ | ⟨endpoint, arguments, -, rfl, rfl⟩ := gate_cases h
  · exact controlled_isAuthenticated true "not_found" loginPath _ fun n => ⟨_, rfl⟩
  · by_cases hdata : endpoint ∉ [.login, .logout, .forbidden]
    · obtain ⟨name, hname⟩ := Route.of_eq_signedIn hdata
      rw [hname]
      exact controlled_signedIn name _
    · simp only [List.mem_cons, List.not_mem_nil, or_false, not_not] at hdata
      rcases hdata with rfl | rfl | rfl
      · exact controlled_isAuthenticated false "login" homePath _ fun n => ⟨_, rfl⟩
      · exact controlled_logout _
      · exact controlled_isAuthenticated true "forbidden" loginPath _ fun n => ⟨_, rfl⟩

theorem respond_visit (registry : Responder σ) (s : σ) (c : Console) (now : Instant)
    (request : Http.Request) :
    (result registry (c.respond request (Place.ofPath? request.path.toList)
      (c.start now request)) s).2 = (c.passage registry s now request).map Passage.visit := by
  rw [passage]
  cases hgate : gate request with
  | none =>
      obtain ⟨answer, hanswer⟩ := exists_unguarded hgate
      rw [hanswer.respond]
      rfl
  | some found =>
      obtain ⟨trimmed, -, hrespond⟩ := respond_of_gate_eq_some hgate
      rw [hrespond, result_map]
      rfl

/-- Whatever the registry answers and whatever is stored, every request that comes to a guard is
controlled, and every other request asks the registry nothing. -/
theorem serve_controlled (registry : Responder σ) (s : σ) (c : Console) (now : Instant)
    (draws : Draws) (request : Http.Request) :
    (result registry (c.respond request (Place.ofPath? request.path.toList)
        (c.start now request)) s).2 = (c.passage registry s now request).map Passage.visit ∧
      match c.passage registry s now request with
      | none => calls registry (c.serve now draws request) s = []
      | some p => calls registry (c.serve now draws request) s = p.guardCalls ++ p.pageCalls ∧
          p.Controlled c now := by
  refine ⟨respond_visit registry s c now request, ?_⟩
  have hcalls := calls_serve registry s c now draws request
  rw [passage] at hcalls ⊢
  cases hgate : gate request with
  | none =>
      rw [hgate] at hcalls
      exact hcalls
  | some found =>
      rw [hgate] at hcalls
      exact ⟨hcalls, controlled_of_gate hgate⟩

end Console

end RegistryConsole
