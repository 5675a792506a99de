import RegistryConsole.Console.Basic
import RegistryConsole.Proofs.Console.Browser
import RegistryConsole.Proofs.Guard.Evaluation
import RegistryConsole.Text.Split
/-!
# Serving one request

A request comes to the guard of one route, or to none at all, and then nothing is asked of the
registry. Behind the guard stands the page of the endpoint.
-/
namespace RegistryConsole

theorem Route.of_eq_signedIn {endpoint : Endpoint} (h : endpoint ∉ [.login, .logout, .forbidden]) :
    ∃ name, of endpoint = make name signedIn loginPath := by
  cases endpoint with
  | login | logout | forbidden => exact absurd h (by decide)
  | _ => exact ⟨_, rfl⟩

theorem Route.of_eq_isAuthenticated {endpoint : Endpoint} (h : endpoint ≠ .login) :
    ∃ name rest, of endpoint = make name (.isAuthenticated true :: rest) loginPath := by
  cases endpoint with
  | login => exact absurd rfl h
  | _ => exact ⟨_, _, rfl⟩

/-- The endpoint that the path of a request is for, if it is for one. -/
def Http.Request.endpoint? (request : Http.Request) : Option Route.Endpoint :=
  match Route.Place.ofPath? request.path.toList with
  | some (.guarded endpoint, _) => some endpoint
  | _ => none

/-- A request for the page that tells how requests were answered so far. One for its headers alone
is none: of the page these would tell the length only, which a response leaves out here. -/
def Http.Request.AsksCounters (request : Http.Request) : Prop :=
  request.method = "GET" ∧ request.path = "/metrics"

namespace Console

open Registry Dialogue Route

/-- The route that guards a request, and the page behind it. Probes are not guarded, and neither is
a request by a method that its path does not have. -/
def gate (request : Http.Request) : Option (Route × (Navigation → Dialogue Pages.Reply)) :=
  match Place.ofPath? request.path.toList with
  | none => some (.unknown, fun n => .done (Pages.notFound n))
  | some (place, arguments) =>
    if place.methods.contains request.method then
      match place with
      | .unguarded _ => none
      | .guarded endpoint => some (.of endpoint, Pages.answer endpoint arguments request)
    else none

/-- The navigation with which the guard of a request begins. -/
def start (c : Console) (now : Instant) (request : Http.Request) : Navigation :=
  c.navigation now (SessionCookie.present request.headers c.records) request

variable {c : Console} {now : Instant} {draws : Draws} {request : Http.Request}
variable {route : Route} {page : Navigation → Dialogue Pages.Reply}

theorem gate_cases (h : gate request = some (route, page)) :
    (request.endpoint? = none ∧ route = .unknown ∧ page = fun n => .done (Pages.notFound n)) ∨
      ∃ endpoint arguments, request.endpoint? = some endpoint ∧ route = .of endpoint ∧
        page = Pages.answer endpoint arguments request := by
  rw [gate] at h
  rw [Http.Request.endpoint?]
  split at h
  next hplace =>
    cases h
    rw [hplace]
    exact .inl ⟨rfl, rfl, rfl⟩
  next place arguments hplace =>
    split at h
    next =>
      cases place with
      | unguarded p => cases h
      | guarded endpoint =>
          cases h
          rw [hplace]
          exact .inr ⟨endpoint, arguments, rfl, rfl, rfl⟩
    next => cases h

/-- What a visit comes to once its guard has decided. -/
def conclude (route : Route) (page : Navigation → Dialogue Pages.Reply) :
    Except ConsoleError Outcome × Navigation → Dialogue Visit
  | (.ok .proceed, n) =>
    (page n).map fun reply => ⟨responseOf reply, ⟨route.name, "proceed"⟩, n⟩
  | (.ok (.redirect target), n) => .done ⟨.redirect target, ⟨route.name, "redirect"⟩, n⟩
  | (.error e, n) => .done ⟨.ofError e, ⟨route.name, "error"⟩, n⟩

theorem gate_of_endpoint {endpoint : Endpoint} (h : request.endpoint? = some endpoint)
    (hmethod : (Place.guarded endpoint).methods.contains request.method = true) :
    ∃ arguments, gate request = some (.of endpoint, Pages.answer endpoint arguments request) := by
  rw [Http.Request.endpoint?] at h
  split at h
  next found arguments hplace =>
    cases h
    rw [gate, hplace]
    exact ⟨arguments, if_pos hmethod⟩
  next => cases h

theorem visit_eq (route : Route) (page : Navigation → Dialogue Pages.Reply) (n : Navigation) :
    visit route page n = (route.guard.evaluate n).bind (conclude route page) := by
  rw [visit, bind_eq_bind]
  congr 1
  funext r
  obtain ⟨result, n⟩ := r
  cases result with
  | error e => rfl
  | ok outcome => cases outcome <;> rfl

/-- What of a response stays when its body is dropped. -/
def SameHead (r r' : Http.Response) : Prop :=
  r.status = r'.status ∧ r.headers = r'.headers

theorem SameHead.redirect? {r r' : Http.Response} (h : SameHead r r') :
    r.redirect? = r'.redirect? := by
  rw [Http.Response.redirect?, h.1, h.2]
  rfl

private theorem trimmed_sameHead (request : Http.Request) (r : Http.Response) :
    SameHead (if request.method = Place.headMethod then r.withoutBody else r) r := by
  split <;> exact ⟨rfl, rfl⟩

/-- The statuses of answers that no guard stood before. -/
def unguardedStatuses : List Nat :=
  [200, 405, 500]

private theorem probe_status (c : Console) (p : Probe) :
    (c.probe p).status ∈ unguardedStatuses := by
  cases p with
  | health => exact (by decide : 200 ∈ unguardedStatuses)
  | metrics =>
      rw [probe]
      cases c.counters with
      | none => exact (by decide : 500 ∈ unguardedStatuses)
      | some counters => exact (by decide : 200 ∈ unguardedStatuses)

private theorem probe_setsNoCookie (c : Console) (p : Probe) : (c.probe p).SetsNoCookie := by
  cases p with
  | health => rfl
  | metrics =>
      rw [probe]
      cases c.counters <;> rfl

private theorem probe_withoutBody {c c' : Console} (h : c'.counters.isSome = c.counters.isSome)
    (p : Probe) : (c'.probe p).withoutBody = (c.probe p).withoutBody := by
  cases p with
  | health => rfl
  | metrics =>
      rw [probe, probe]
      cases hcounters : c.counters with
      | none =>
          rw [hcounters, Option.isSome_none, Option.isSome_eq_false_iff,
            Option.isNone_iff_eq_none] at h
          rw [h]
      | some counters =>
          rw [hcounters, Option.isSome_some, Option.isSome_iff_exists] at h
          obtain ⟨counters', hcounters'⟩ := h
          rw [hcounters']
          rfl

private theorem segments_of_literal {text : String} {segments : List (List Char)} {arguments : Arguments}
    (h : Pattern.match? [.literal text] segments = some arguments) : segments = [text.toList] := by
  cases segments with
  | nil => cases h
  | cons s rest =>
      rw [Pattern.match?] at h
      split at h
      next hs =>
        cases rest with
        | nil => rw [hs]
        | cons s' rest => cases h
      next => cases h

private theorem path_of_metrics {request : Http.Request} {arguments : Arguments}
    (h : Place.ofPath? request.path.toList = some (.unguarded .metrics, arguments)) :
    request.path = "/metrics" := by
  rw [Place.ofPath?, Option.bind_eq_some_iff] at h
  obtain ⟨segments, hsegments, hfound⟩ := h
  obtain ⟨place, -, hmatch⟩ := List.exists_of_findSome?_eq_some hfound
  obtain ⟨matched, hmatched, hplace⟩ := Option.map_eq_some_iff.mp hmatch
  cases hplace
  rw [segments_of_literal hmatched] at hsegments
  rw [segments?.eq_def] at hsegments
  split at hsegments
  next rest hpath =>
    have hsplit : Text.split '/' rest = ["metrics".toList] := Option.some.inj hsegments
    have hrest := Text.join_split '/' rest
    rw [hsplit, Text.join] at hrest
    rw [← hrest] at hpath
    exact String.toList_inj.mp hpath
  next => cases hsegments

/-- How a request is answered that no guard stands before. Nothing is asked for it, and only the
page of the counters tells of other requests. -/
structure Unguarded (request : Http.Request) (answer : Console → Http.Response) : Prop where
  respond : ∀ c n, Console.respond request (Place.ofPath? request.path.toList) c n =
    .done (answer c, none)
  status : ∀ c, (answer c).status ∈ unguardedStatuses
  setsNoCookie : ∀ c, (answer c).SetsNoCookie
  answer_eq : ¬ request.AsksCounters → ∀ c c' : Console,
    c'.counters.isSome = c.counters.isSome → answer c' = answer c

private theorem unguarded_wrongMethod {place : Place} {arguments : Arguments}
    (hplace : Place.ofPath? request.path.toList = some (place, arguments))
    (hmethod : place.methods.contains request.method = false) :
    Unguarded request fun _ => .wrongMethod (",".intercalate place.methods) where
  respond := by
    intro c n
    simp only [hplace, Console.respond, hmethod, Bool.not_false, if_true, pure_eq_done]
  status := fun _ => (by decide : 405 ∈ unguardedStatuses)
  setsNoCookie := fun _ => rfl
  answer_eq := fun _ _ _ _ => rfl

private theorem unguarded_probe {p : Probe} {arguments : Arguments}
    (hplace : Place.ofPath? request.path.toList = some (.unguarded p, arguments))
    (hmethod : (Place.unguarded p).methods.contains request.method = true) :
    Unguarded request fun c =>
      if request.method = Place.headMethod then (c.probe p).withoutBody else c.probe p where
  respond := by
    intro c n
    simp only [hplace, Console.respond, hmethod, Bool.not_true, Bool.false_eq_true, if_false]
    rfl
  status := by
    intro c
    rw [(trimmed_sameHead request (c.probe p)).1]
    exact probe_status c p
  setsNoCookie := by
    intro c
    rw [Http.Response.SetsNoCookie, (trimmed_sameHead request (c.probe p)).2]
    exact probe_setsNoCookie c p
  answer_eq := by
    intro hcounters c c' hsome
    by_cases hhead : request.method = Place.headMethod
    · simp only [if_pos hhead, probe_withoutBody hsome p]
    · simp only [if_neg hhead]
      cases p with
      | health => rfl
      | metrics =>
          have hget : request.method ∈ ["GET", Place.headMethod] :=
            List.contains_iff_mem.mp hmethod
          simp only [List.mem_cons, hhead, List.not_mem_nil, or_false] at hget
          exact absurd ⟨hget, path_of_metrics hplace⟩ hcounters

theorem exists_unguarded (h : gate request = none) : ∃ answer, Unguarded request answer := by
  rw [gate] at h
  cases hplace : Place.ofPath? request.path.toList with
  | none =>
      rw [hplace] at h
      cases h
  | some found =>
      obtain ⟨place, arguments⟩ := found
      simp only [hplace] at h
      cases hmethod : place.methods.contains request.method with
      | false => exact ⟨_, unguarded_wrongMethod hplace hmethod⟩
      | true =>
          simp only [hmethod, if_true] at h
          cases place with
          | guarded endpoint => cases h
          | unguarded p => exact ⟨_, unguarded_probe hplace hmethod⟩

theorem respond_of_gate (h : gate request = some (route, page)) :
    ∃ trimmed : Http.Response → Http.Response, (∀ r, SameHead (trimmed r) r) ∧
      (request.method ≠ Place.headMethod → ∀ r, trimmed r = r) ∧
      ∀ (c : Console) n, c.respond request (Place.ofPath? request.path.toList) n =
        (visit route page n).map fun v => (trimmed v.response, some v) := by
  rw [gate] at h
  cases hplace : Place.ofPath? request.path.toList with
  | none =>
      rw [hplace] at h
      cases h
      exact ⟨id, fun _ => ⟨rfl, rfl⟩, fun _ _ => rfl, fun _ _ => rfl⟩
  | some found =>
      obtain ⟨place, arguments⟩ := found
      simp only [hplace] at h
      cases hmethod : place.methods.contains request.method with
      | false =>
          rw [hmethod] at h
          cases h
      | true =>
          simp only [hmethod, if_true] at h
          simp only [respond, hmethod, Bool.not_true, Bool.false_eq_true, if_false]
          cases place with
          | unguarded p => cases h
          | guarded endpoint =>
              cases h
              exact ⟨_, trimmed_sameHead request, fun hhead _ => if_neg hhead, fun _ _ => rfl⟩

theorem respond_of_gate_eq_some (h : gate request = some (route, page)) :
    ∃ trimmed : Http.Response → Http.Response, (∀ r, SameHead (trimmed r) r) ∧
      ∀ (c : Console) n, c.respond request (Place.ofPath? request.path.toList) n =
        (visit route page n).map fun v => (trimmed v.response, some v) := by
  obtain ⟨trimmed, htrimmed, -, hrespond⟩ := respond_of_gate h
  exact ⟨trimmed, htrimmed, hrespond⟩

variable {σ : Type} {registry : Responder σ} {s : σ} {n ready : Navigation}

private theorem evaluate_of_absent (hgate : gate request = some (route, page))
    (hprepare : result registry n.prepare s = (.ok (), ready))
    (hread : ready.readSession = .ok none) :
    ∃ outcome, result registry (route.guard.evaluate n) s = (.ok outcome, ready) ∧
      calls registry (route.guard.evaluate n) s = calls registry n.prepare s ∧
      (outcome = .proceed → ∃ reply, page ready = .done reply) := by
  have hsignedOut (name : String) (rest : List Condition) :
      let evaluated := (make name (.isAuthenticated true :: rest) loginPath).guard.evaluate n
      result registry evaluated s = (.ok (.redirect loginPath), ready) ∧
        calls registry evaluated s = calls registry n.prepare s := by
    intro evaluated
    rw [show evaluated = _ from evaluate_make .., result_bind, calls_bind, hprepare]
    simp only [Guard.run_signedOut loginPath hread]
    exact ⟨rfl, List.append_nil _⟩
  obtain ⟨-, rfl, -⟩ | ⟨endpoint, arguments, -, rfl, rfl⟩ := gate_cases hgate
  · obtain ⟨hresult, hcalls⟩ := hsignedOut "not_found" []
    exact ⟨_, hresult, hcalls, nofun⟩
  · by_cases hlogin : endpoint = .login
    · subst hlogin
      rw [Route.of, evaluate_make, result_bind, calls_bind, hprepare]
      simp only [Guard.run_isAuthenticated, hread]
      exact ⟨.proceed, rfl, List.append_nil _, fun _ => ⟨_, rfl⟩⟩
    · obtain ⟨name, rest, hroute⟩ := Route.of_eq_isAuthenticated hlogin
      rw [hroute]
      obtain ⟨hresult, hcalls⟩ := hsignedOut name rest
      exact ⟨_, hresult, hcalls, nofun⟩

/-- A visit without a session asks nothing once it was prepared, and leaves its navigation as it
is. -/
theorem visit_of_absent (hgate : gate request = some (route, page))
    (hprepare : result registry n.prepare s = (.ok (), ready))
    (hread : ready.readSession = .ok none) :
    (result registry (visit route page n) s).navigation = ready ∧
      calls registry (visit route page n) s = calls registry n.prepare s := by
  obtain ⟨outcome, hresult, hcalls, hpage⟩ := evaluate_of_absent hgate hprepare hread
  rw [visit_eq, result_bind, calls_bind, hresult, hcalls]
  cases outcome with
  | redirect target => exact ⟨rfl, List.append_nil _⟩
  | proceed =>
      obtain ⟨reply, hreply⟩ := hpage rfl
      rw [conclude, hreply]
      exact ⟨rfl, List.append_nil _⟩

theorem serve_of_unguarded {answer : Console → Http.Response} (h : Unguarded request answer)
    (c : Console) : c.serve now draws request =
      .done (c.finish now draws request (Place.ofPath? request.path.toList)
        (SessionCookie.present request.headers c.records) (answer c) none) := by
  rw [serve, h.respond]
  rfl

theorem serve_of_gate (h : gate request = some (route, page)) :
    ∃ trimmed : Http.Response → Http.Response, (∀ r, SameHead (trimmed r) r) ∧
      ∀ c : Console, c.serve now draws request =
        (visit route page (c.start now request)).map fun v =>
          c.finish now draws request (Place.ofPath? request.path.toList)
            (SessionCookie.present request.headers c.records) (trimmed v.response) (some v) := by
  obtain ⟨trimmed, htrimmed, hrespond⟩ := respond_of_gate_eq_some h
  refine ⟨trimmed, htrimmed, ?_⟩
  intro c
  rw [serve, hrespond, Dialogue.map, map_bind]
  rfl

theorem serve_of_gate_of_ne_head (h : gate request = some (route, page))
    (hmethod : request.method ≠ Place.headMethod) (c : Console) :
    c.serve now draws request = (visit route page (c.start now request)).map fun v =>
      c.finish now draws request (Place.ofPath? request.path.toList)
        (SessionCookie.present request.headers c.records) v.response (some v) := by
  obtain ⟨trimmed, -, htrimmed, hrespond⟩ := respond_of_gate h
  simp only [htrimmed hmethod] at hrespond
  rw [serve, hrespond, Dialogue.map, map_bind]
  rfl

end Console

end RegistryConsole
