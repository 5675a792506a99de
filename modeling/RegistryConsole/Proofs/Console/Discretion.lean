import RegistryConsole.Proofs.Console.Serve
import RegistryConsole.Proofs.Registry.Discretion
/-!
# A discreet console

Guards and pages pass on the cookies of the browser they work for, and tell nobody what the registry
sends with a failure. After the guard has asked for the configuration, all that is left of a visit
depends on the navigation alone (`attend`), whose cache stays as it is.
-/
namespace RegistryConsole

open Registry Dialogue

/-- A dialogue that asks with the cookies of a navigation only, and goes one way whatever the
registry sends with failures. -/
abbrev Navigation.Trusts (n : Navigation) {α : Type} (q : α → Prop) (d : Dialogue α) : Prop :=
  d.Discreet (fun r => r.cookie = n.clients.cookie) q

structure Navigation.SameRegistry (n n' : Navigation) : Prop where
  clients : n'.clients = n.clients
  cache : n'.cache = n.cache

namespace Navigation

variable (n : Navigation)

theorem SameRegistry.refl : n.SameRegistry n :=
  ⟨rfl, rfl⟩

theorem SameRegistry.trans {n n' n'' : Navigation} (h : n.SameRegistry n')
    (h' : n'.SameRegistry n'') : n.SameRegistry n'' :=
  ⟨h'.clients.trans h.clients, h'.cache.trans h.cache⟩

theorem loadRuntime_discreet : n.Trusts (fun n' => n'.clients = n.clients) n.loadRuntime :=
  (RuntimeCache.init_discreet n.clients.root n.cache).map fun _ _ => rfl

theorem refreshSession_discreet : n.Trusts (fun r => n.SameRegistry r.2) n.refreshSession := by
  rw [refreshSession]
  split
  · refine .map_envelope ?_ (fun _ _ _ => rfl) fun _ => ⟨rfl, rfl⟩
    rw [askSession]
    cases n.source with
    | given answers => exact .done (.refl _)
    | announced =>
        dsimp only
        rw [Clients.getSession]
        exact n.clients.root.get_forwards _ _
  · exact .done (.refl n)

theorem clearSession_discreet : n.Trusts (fun r => n.SameRegistry r.2) n.clearSession := by
  rw [clearSession]
  split
  · rw [askClear]
    cases n.source with
    | given answers => exact .done ⟨rfl, rfl⟩
    | announced =>
        dsimp only
        rw [Clients.clearSession, Dialogue.map, map_bind]
        exact .bind_envelope (n.clients.root.delete_forwards _ _) (fun _ _ _ => rfl)
          fun _ => .done ⟨rfl, rfl⟩
  · exact .done (.refl n)

end Navigation

/-- Only the first condition of all guards touches the configuration. -/
theorem Condition.check_discreet (n : Navigation) {c : Condition} (h : c ≠ .loadRuntime) :
    n.Trusts (fun r => n.SameRegistry r.2) (c.check n) := by
  cases c with
  | loadRuntime => exact absurd rfl h
  | refreshSession => exact n.refreshSession_discreet.map fun _ hr => hr
  | isAuthenticated expected => exact .done (.refl n)
  | isAuthorized refusedTo => exact .done (.refl n)
  | logOut => exact n.clearSession_discreet.map fun _ hr => hr

theorem Guard.run_discreet (fallback : String) {conditions : List Condition}
    (h : .loadRuntime ∉ conditions) (n : Navigation) :
    n.Trusts (fun r => n.SameRegistry r.2)
      (Guard.run fallback (conditions.map Condition.precondition) n) := by
  induction conditions generalizing n with
  | nil => exact .done (.refl n)
  | cons c rest ih =>
      rw [List.mem_cons, not_or] at h
      rw [List.map_cons, Guard.run_precondition]
      refine (Condition.check_discreet n (Ne.symm h.1)).bind ?_
      rintro ⟨verdict, n'⟩ hn'
      cases verdict with
      | error e => exact .done hn'
      | ok verdict =>
          cases verdict with
          | fail => exact .done hn'
          | pass =>
              -- the rest asks with the cookies of `n'`, which are those of `n`
              have hrest := ih h.2 n'
              dsimp only at hn'
              rw [Navigation.Trusts, hn'.clients] at hrest
              exact hrest.mono fun r hr => hn'.trans hr

namespace Pages

def Plain (reply : Reply) : Prop :=
  (Console.responseOf reply).SetsNoCookie

private theorem plain_userName (n : Navigation) {response : String → Http.Response}
    (h : ∀ userName, (response userName).SetsNoCookie) :
    Plain (do
      let userName ← n.userName
      return response userName) := by
  cases n.userName with
  | error e => rfl
  | ok userName => exact h userName

variable {n : Navigation}

theorem dashboard_discreet : n.Trusts Plain (dashboard n) := by
  refine .bind_envelope (Artifacts.getAll_forwards n.clients.artifacts) (fun _ _ _ => rfl) ?_
  intro artifacts
  exact .bind_envelope (Authorities.getAll_forwards n.clients.authorities) (fun _ _ _ => rfl)
    fun _ => .done (plain_userName n fun _ => rfl)

theorem artifact_discreet (slug : Slug) (version : Option String) :
    n.Trusts Plain (artifact n slug version) :=
  .bind_envelope (Artifacts.getOne_forwards n.clients.artifacts slug) (fun _ _ _ => rfl)
    fun _ => .done (plain_userName n fun _ => rfl)

theorem settings_discreet (status : Nat) (errors : List FieldError) (notice : String) :
    n.Trusts Plain (settings n status errors notice) := by
  rw [settings]
  cases n.userName with
  | error e => exact .done rfl
  | ok userName =>
      exact .bind_envelope (Authorities.getAll_forwards n.clients.authorities) (fun _ _ _ => rfl)
        fun _ => .done rfl

theorem settle_discreet (answer : Envelope α) : n.Trusts Plain (settle n answer) := by
  cases answer with
  | ok data => exact .done rfl
  | error message details => exact settings_discreet 502 [] message

theorem settled_discreet {call : Dialogue (Envelope α)} (h : n.clients.authorities.Forwards call) :
    n.Trusts Plain (call.bind (settle n)) :=
  .bind_envelope h (fun _ _ _ => rfl) settle_discreet

theorem submit_discreet (errors : List FieldError) {call : Dialogue (Envelope α)}
    (h : n.clients.authorities.Forwards call) :
    n.Trusts Plain (submit n errors call) := by
  rw [submit]
  split
  · exact settled_discreet h
  · exact settings_discreet 422 errors ""

theorem withForm_discreet {fields : List (Json.RecordField ρ)} {defaults : ρ}
    {request : Http.Request} {next : ρ → Dialogue Reply}
    (h : ∀ form, n.Trusts Plain (next form)) :
    n.Trusts Plain (withForm fields defaults request next) := by
  rw [withForm]
  cases formOf fields defaults request with
  | ok form => exact h form
  | error e => exact .done rfl

theorem withArguments_discreet {arguments : Route.Arguments}
    {next : (String → Option String) → Dialogue Reply}
    (h : ∀ argument, n.Trusts Plain (next argument)) :
    n.Trusts Plain (withArguments arguments next) := by
  rw [withArguments]
  cases decodeArguments arguments with
  | ok texts => exact h _
  | error name => exact .done rfl

theorem answer_discreet (endpoint : Route.Endpoint) (arguments : Route.Arguments)
    (request : Http.Request) (n : Navigation) :
    n.Trusts Plain (answer endpoint arguments request n) := by
  cases endpoint with
  | home => exact dashboard_discreet
  | login | logout => exact .done rfl
  | forbidden => exact .done (plain_userName n fun _ => rfl)
  | settings => exact settings_discreet 200 [] ""
  | createAuthority =>
      rw [answer]
      exact withForm_discreet fun form => submit_discreet _ (Authorities.create_forwards _ _)
  | deleteAuthority =>
      rw [answer]
      exact withArguments_discreet fun argument => settled_discreet
        (Authorities.delete_forwards _ _)
  | createKey =>
      rw [answer]
      exact withArguments_discreet fun argument => withForm_discreet fun form =>
        submit_discreet _ (Keys.create_forwards _ _ _)
  | deleteKey =>
      rw [answer]
      exact withArguments_discreet fun argument => settled_discreet (Keys.delete_forwards _ _ _)
  | createApiKey =>
      rw [answer]
      exact withArguments_discreet fun argument => withForm_discreet fun form =>
        submit_discreet _ (ApiKeys.create_forwards _ _ _)
  | deleteApiKey =>
      rw [answer]
      exact withArguments_discreet fun argument => settled_discreet
        (ApiKeys.delete_forwards _ _ _)
  | module | moduleVersion | provider | providerVersion =>
      rw [answer]
      exact withArguments_discreet fun argument => artifact_discreet _ _

end Pages

namespace Console

open Route

/-- All of a visit that comes after its guard has asked for the configuration. -/
def attend (route : Route) (page : Navigation → Dialogue Pages.Reply) (n : Navigation) :
    Dialogue Visit :=
  (Guard.run route.fallback (route.conditions.tail.map Condition.precondition) n).bind
    (conclude route page)

/-- The routes of the console load the configuration first, and only once. -/
def LoadsFirst (route : Route) : Prop :=
  ∃ name own fallback, route = Route.make name own fallback ∧ .loadRuntime ∉ own

variable {request : Http.Request} {route : Route} {page : Navigation → Dialogue Pages.Reply}

theorem loadsFirst_of_gate (h : gate request = some (route, page)) : LoadsFirst route := by
  obtain ⟨-, rfl, -⟩ | ⟨endpoint, arguments, -, rfl, -⟩ := gate_cases h
  · exact ⟨_, _, _, rfl, by decide⟩
  · cases endpoint <;> exact ⟨_, _, _, rfl, by decide⟩

theorem visit_eq_attend (h : LoadsFirst route) (n : Navigation) :
    visit route page n = n.loadRuntime.bind (attend route page) := by
  obtain ⟨name, own, fallback, rfl, -⟩ := h
  rw [visit_eq, evaluate_make_loadRuntime, Dialogue.bind_assoc]
  rfl

theorem attend_discreet (h : LoadsFirst route)
    (hpage : ∀ n : Navigation, n.Trusts Pages.Plain (page n)) (n : Navigation) :
    n.Trusts (fun v => v.response.SetsNoCookie ∧ v.navigation.cache = n.cache)
      (attend route page n) := by
  obtain ⟨name, own, fallback, rfl, hown⟩ := h
  have hconditions : .loadRuntime ∉ (Route.make name own fallback).conditions.tail := by
    simpa [Route.make, Condition.base] using hown
  refine (Guard.run_discreet fallback hconditions n).bind ?_
  rintro ⟨decision, n'⟩ hn'
  cases decision with
  | error e => exact .done ⟨rfl, hn'.cache⟩
  | ok outcome =>
      cases outcome with
      | redirect target => exact .done ⟨rfl, hn'.cache⟩
      | proceed =>
          have hpage' := hpage n'
          dsimp only at hn'
          rw [Navigation.Trusts, hn'.clients] at hpage'
          exact hpage'.map fun _ hreply => ⟨hreply, hn'.cache⟩

theorem page_discreet (h : gate request = some (route, page)) (n : Navigation) :
    n.Trusts Pages.Plain (page n) := by
  obtain ⟨-, -, rfl⟩ | ⟨endpoint, arguments, -, -, rfl⟩ := gate_cases h
  · exact .done rfl
  · exact Pages.answer_discreet endpoint arguments request n

theorem visit_discreet (h : gate request = some (route, page)) (n : Navigation) :
    n.Trusts (fun v => v.response.SetsNoCookie) (visit route page n) := by
  have hloads := loadsFirst_of_gate h
  rw [visit_eq_attend hloads]
  refine n.loadRuntime_discreet.bind ?_
  intro n' hclients
  have hattend := attend_discreet hloads (page_discreet h) n'
  rw [Navigation.Trusts, hclients] at hattend
  exact hattend.mono fun _ hv => hv.1

/-- The console asks with the cookies of the browser, and what it does with a request does not
depend on what the registry sends with failures. -/
theorem serve_discreet (now : Instant) (draws : Draws) (request : Http.Request) (c : Console) :
    (c.serve now draws request).Discreet (fun r => r.cookie = request.headers.get? "cookie")
      fun _ => True := by
  cases hgate : gate request with
  | none =>
      obtain ⟨answer, hanswer⟩ := exists_unguarded hgate
      rw [serve_of_unguarded hanswer]
      exact .done True.intro
  | some found =>
      obtain ⟨route, page⟩ := found
      obtain ⟨trimmed, -, hserve⟩ := serve_of_gate hgate
      rw [hserve]
      exact (visit_discreet hgate (c.start now request)).map fun _ _ => True.intro

end Console

end RegistryConsole
