import RegistryConsole.Proofs.Console.Access
import RegistryConsole.Proofs.Console.Pages
import RegistryConsole.Proofs.Console.Retention
/-!
# What the counters tell

Each request raises one counter when it was answered, and a second one if it came to a guard. So
over any run the counters grow by the requests that were answered and by the decisions of the guards
(`Tallies`): none is lost and none is counted twice. Each is timed as often as it is counted
(`Timed`).
-/
namespace RegistryConsole

open Registry Dialogue Route

namespace Counters

variable {κ : Type}

/-- What the counters of all labels of a kind stand at together. -/
def total (p : κ → Bool) (counters : List (κ × Nat)) : Nat :=
  ((counters.filter fun entry => p entry.1).map Prod.snd).sum

theorem total_cons (p : κ → Bool) (l : κ) (n : Nat) (rest : List (κ × Nat)) :
    total p ((l, n) :: rest) = (if p l then n else 0) + total p rest := by
  rw [total, total, List.filter_cons]
  by_cases h : p l = true
  · rw [if_pos h, if_pos h, List.map_cons, List.sum_cons]
  · rw [if_neg h, if_neg h, Nat.zero_add]

variable [DecidableEq κ]

/-- Raises the counters of labels one after another. -/
def raiseAll (labels : List κ) (counters : List (κ × Nat)) : List (κ × Nat) :=
  labels.foldl (fun counters label => raise label counters) counters

/-- Adds durations to those of their labels one after another. -/
def observeAll (observed : List (κ × Nat)) (durations : List (κ × List Nat)) :
    List (κ × List Nat) :=
  observed.foldl (fun durations (label, elapsed) => observe label elapsed durations) durations

theorem raise_cons (label l : κ) (n : Nat) (rest : List (κ × Nat)) :
    raise label ((l, n) :: rest) =
      if l = label then (l, n + 1) :: rest else (l, n) :: raise label rest := rfl

theorem count_cons (label l : κ) (n : Nat) (rest : List (κ × Nat)) :
    count label ((l, n) :: rest) = if l = label then n else count label rest := by
  rw [count, List.lookup_cons]
  by_cases h : l = label
  · rw [if_pos h, h, beq_self_eq_true]
    rfl
  · rw [if_neg h, beq_false_of_ne (Ne.symm h)]
    rfl

theorem count_raise (label raised : κ) (counters : List (κ × Nat)) :
    count label (raise raised counters) =
      count label counters + if raised = label then 1 else 0 := by
  induction counters with
  | nil => exact (count_cons label raised 1 []).trans (Nat.zero_add _).symm
  | cons entry rest ih =>
      obtain ⟨l, n⟩ := entry
      rw [raise_cons]
      by_cases hl : l = raised
      · subst hl
        rw [if_pos rfl, count_cons, count_cons]
        split <;> rfl
      · rw [if_neg hl, count_cons, count_cons, ih]
        by_cases h : l = label
        · rw [if_pos h, if_pos h, if_neg fun hr => hl (h.trans hr.symm)]
          rfl
        · rw [if_neg h, if_neg h]

theorem total_raise (p : κ → Bool) (raised : κ) (counters : List (κ × Nat)) :
    total p (raise raised counters) = total p counters + if p raised then 1 else 0 := by
  induction counters with
  | nil => exact (total_cons p raised 1 []).trans (Nat.add_comm _ _)
  | cons entry rest ih =>
      obtain ⟨l, n⟩ := entry
      rw [raise_cons]
      by_cases hl : l = raised
      · subst hl
        rw [if_pos rfl, total_cons, total_cons]
        split <;> omega
      · rw [if_neg hl, total_cons, total_cons, ih, Nat.add_assoc]

theorem raiseAll_append (labels labels' : List κ) (counters : List (κ × Nat)) :
    raiseAll (labels ++ labels') counters = raiseAll labels' (raiseAll labels counters) :=
  List.foldl_append

theorem count_raiseAll (label : κ) (labels : List κ) (counters : List (κ × Nat)) :
    count label (raiseAll labels counters) =
      count label counters + labels.countP (· = label) := by
  induction labels generalizing counters with
  | nil => rfl
  | cons raised rest ih =>
      rw [raiseAll, List.foldl_cons, ← raiseAll, ih, count_raise, List.countP_cons]
      simp only [decide_eq_true_eq]
      omega

theorem total_raiseAll (p : κ → Bool) (labels : List κ) (counters : List (κ × Nat)) :
    total p (raiseAll labels counters) = total p counters + labels.countP p := by
  induction labels generalizing counters with
  | nil => rfl
  | cons raised rest ih =>
      rw [raiseAll, List.foldl_cons, ← raiseAll, ih, total_raise, List.countP_cons]
      omega

theorem observeAll_append (observed observed' : List (κ × Nat)) (durations : List (κ × List Nat)) :
    observeAll (observed ++ observed') durations =
      observeAll observed' (observeAll observed durations) :=
  List.foldl_append

/-- How many durations there are for each label. -/
def sizes (durations : List (κ × List Nat)) : List (κ × Nat) :=
  durations.map (Prod.map id List.length)

theorem map_alter {α β : Type} {f : Option α → α} {f' : Option β → β} {g : α → β}
    (h : ∀ x, g (f x) = f' (x.map g)) (label : κ) (entries : List (κ × α)) :
    (alter label f entries).map (Prod.map id g) =
      alter label f' (entries.map (Prod.map id g)) := by
  induction entries with
  | nil => exact congrArg (fun x => [(label, x)]) (h none)
  | cons entry rest ih =>
      obtain ⟨l, x⟩ := entry
      rw [alter, List.map_cons, Prod.map_apply, id, alter]
      by_cases hl : l = label
      · rw [if_pos hl, if_pos hl, List.map_cons, Prod.map_apply, h]
        rfl
      · rw [if_neg hl, if_neg hl, List.map_cons, ih]
        rfl

theorem sizes_observe (label : κ) (elapsed : Nat) (durations : List (κ × List Nat)) :
    sizes (observe label elapsed durations) = raise label (sizes durations) := by
  refine map_alter ?_ label durations
  intro observed
  cases observed with
  | none => rfl
  | some observed => exact List.length_append

theorem sizes_observeAll (observed : List (κ × Nat)) (durations : List (κ × List Nat)) :
    sizes (observeAll observed durations) = raiseAll (observed.map Prod.fst) (sizes durations) := by
  induction observed generalizing durations with
  | nil => rfl
  | cons entry rest ih =>
      rw [observeAll, List.foldl_cons, ← observeAll, ih, sizes_observe]
      rfl

/-- As many requests were timed as were counted, under each label. -/
def Timed (c : Counters) : Prop :=
  sizes c.durations = c.requests

end Counters

/-- The pattern that the path of a request matches, as it is written. -/
def Http.Request.pattern (request : Http.Request) : String :=
  ((Place.ofPath? request.path.toList).map (·.1.pattern.text)).getD Counters.unmatched

def Exchange.label (e : Exchange) : RequestLabel :=
  ⟨e.arrival.request.method, e.arrival.request.pattern, e.response.status⟩

def Exchange.observed (e : Exchange) : RequestLabel × Nat :=
  (e.label, e.arrival.draws.elapsed)

/-- A request that was dispatched to a handler of a route, with what the guard before that handler
decided. -/
structure Dispatch where
  route : Route
  decision : Except ConsoleError Outcome

def Dispatch.label (d : Dispatch) : OutcomeLabel :=
  ⟨d.route.name, Console.outcomeName d.decision⟩

/-- The counters have grown by what was exchanged with browsers and by what was dispatched to
handlers. -/
structure Counters.Tallies (before after : Counters) (exchanges : List Exchange)
    (dispatches : List Dispatch) : Prop where
  requests : ∀ method path status,
    count ⟨method, path, status⟩ after.requests = count ⟨method, path, status⟩ before.requests +
      exchanges.countP fun e => e.arrival.request.method = method ∧
        e.arrival.request.pattern = path ∧ e.response.status = status
  /-- Whatever their outcomes are, the decisions of the guard of a route are as many as the requests
  that were dispatched there. -/
  dispatched : ∀ name,
    total (·.route = name) after.outcomes = total (·.route = name) before.outcomes +
      dispatches.countP (·.route.name = name)
  redirected : ∀ name,
    count ⟨name, "redirect"⟩ after.outcomes = count ⟨name, "redirect"⟩ before.outcomes +
      dispatches.countP fun d => d.route.name = name ∧ d.decision matches .ok (.redirect _)
  proceeded : ∀ name,
    count ⟨name, "proceed"⟩ after.outcomes = count ⟨name, "proceed"⟩ before.outcomes +
      dispatches.countP fun d => d.route.name = name ∧ d.decision matches .ok .proceed
  failed : ∀ name,
    count ⟨name, "error"⟩ after.outcomes = count ⟨name, "error"⟩ before.outcomes +
      dispatches.countP fun d => d.route.name = name ∧ d.decision matches .error _
  /-- Both families of counters tell the same of the redirects from home. -/
  home : ∃ growth,
    count ⟨"home", "redirect"⟩ after.outcomes =
        count ⟨"home", "redirect"⟩ before.outcomes + growth ∧
      total (fun l => l.path = "/" ∧ l.status = 303) after.requests =
        total (fun l => l.path = "/" ∧ l.status = 303) before.requests + growth

namespace Console

variable {σ : Type} (registry : Responder σ)

/-- The handler that an arrival is dispatched to, if it is, with what the guard decides. -/
def dispatch? (a : Arrival) (c : Console) (s : σ) : Option Dispatch :=
  (gate a.request).map fun (route, _) =>
    { route, decision := (result registry (route.guard.evaluate (c.start a.now a.request)) s).1 }

def dispatches : List Arrival → Console → σ → List Dispatch
  | [], _, _ => []
  | a :: rest, c, s =>
    (c.dispatch? registry a s).toList ++
      dispatches rest (result registry (c.answering a) s).2 (endState registry (c.answering a) s)

theorem answering_counted (s : σ) (c : Console) (a : Arrival) :
    (result registry (c.answering a) s).2.counters = c.counters.map fun counters =>
      { requests := Counters.raiseAll [(c.exchange registry a s).label] counters.requests
        durations := Counters.observeAll [(c.exchange registry a s).observed] counters.durations
        outcomes := Counters.raiseAll ((c.dispatch? registry a s).toList.map Dispatch.label)
          counters.outcomes } := by
  have hvisit := respond_visit registry s c a.now a.request
  have houtcome : ((c.passage registry s a.now a.request).map Passage.visit).map Visit.outcome =
      (c.dispatch? registry a s).map Dispatch.label := by
    rw [passage, dispatch?]
    cases gate a.request with
    | none => rfl
    | some found => exact congrArg some (visit_outcome found.1 found.2 _ s)
  rw [← hvisit] at houtcome
  rw [exchange, answering, serve, result_map, finish_counted]
  congr 1
  funext counters
  rw [start] at houtcome
  simp only [houtcome]
  cases c.dispatch? registry a s <;> rfl

/-- A run raises the counters of its exchanges and of its dispatches, in their order. -/
theorem leaves_counted (arrivals : List Arrival) (c : Console) (s : σ) :
    (c.leaves registry arrivals s).1.counters = c.counters.map fun counters =>
      { requests := Counters.raiseAll ((c.exchanges registry arrivals s).map Exchange.label)
          counters.requests
        durations := Counters.observeAll ((c.exchanges registry arrivals s).map Exchange.observed)
          counters.durations
        outcomes := Counters.raiseAll ((c.dispatches registry arrivals s).map Dispatch.label)
          counters.outcomes } := by
  induction arrivals generalizing c s with
  | nil => exact (congrFun Option.map_id c.counters).symm
  | cons a rest ih =>
      rw [leaves, ih, answering_counted, Option.map_map, exchanges, dispatches, List.map_append]
      congr 1
      funext counters
      rw [Counters.raiseAll_append]
      rfl

/-- Over any run, the page of the counters tells as many durations as requests, of each label. -/
theorem leaves_timed (arrivals : List Arrival) (s : σ) {c : Console}
    (h : ∀ counters ∈ c.counters, counters.Timed) :
    ∀ counters ∈ (c.leaves registry arrivals s).1.counters, counters.Timed := by
  rw [leaves_counted]
  intro after hafter
  obtain ⟨before, hbefore, rfl⟩ := Option.mem_map.mp hafter
  rw [Counters.Timed, Counters.sizes_observeAll, List.map_map, h before hbefore]
  rfl

private theorem text_eq_home_iff (place : Place) :
    place.pattern.text = "/" ↔ place = .guarded .home := by
  cases place with
  | guarded endpoint => cases endpoint <;> decide
  | unguarded probe => cases probe <;> decide

private theorem name_eq_home_iff (endpoint : Endpoint) :
    (Route.of endpoint).name = "home" ↔ endpoint = .home := by
  cases endpoint <;> decide

theorem pattern_eq_home_iff (request : Http.Request) :
    request.pattern = "/" ↔ request.endpoint? = some .home := by
  rw [Http.Request.pattern, Http.Request.endpoint?]
  cases Place.ofPath? request.path.toList with
  | none =>
      exact iff_of_false (by decide : Counters.unmatched ≠ "/") (Option.some_ne_none _).symm
  | some found =>
      obtain ⟨place, arguments⟩ := found
      refine (text_eq_home_iff place).trans ?_
      cases place with
      | guarded endpoint => simp
      | unguarded probe => simp

theorem home_of_gate {request : Http.Request} {route : Route}
    {page : Navigation → Dialogue Pages.Reply} (h : gate request = some (route, page)) :
    (route.name = "home" ↔ request.pattern = "/") ∧
      (request.pattern = "/" → page = Pages.dashboard) := by
  rw [pattern_eq_home_iff]
  obtain ⟨hendpoint, rfl, -⟩ | ⟨endpoint, arguments, hendpoint, rfl, rfl⟩ := gate_cases h
  · rw [hendpoint]
    exact ⟨iff_of_false (by decide) nofun, nofun⟩
  · rw [hendpoint, Option.some_inj]
    refine ⟨name_eq_home_iff endpoint, ?_⟩
    rintro rfl
    rfl

variable {registry} {s : σ} {c : Console} {a : Arrival}

/-- Before a page that redirects nobody, a response is a redirect if the guard has decided so. -/
theorem visit_redirects_iff {route : Route} {page : Navigation → Dialogue Pages.Reply}
    (hpage : ∀ n, (page n).Meets (fun _ => True) fun reply => (responseOf reply).status ≠ 303)
    (n : Navigation) (s : σ) :
    (result registry (Console.visit route page n) s).response.status = 303 ↔
      outcomeName (result registry (route.guard.evaluate n) s).1 = "redirect" := by
  rw [visit_eq, result_bind]
  obtain ⟨decision, left⟩ := result registry (route.guard.evaluate n) s
  cases decision with
  | error e => exact iff_of_false (by decide : 500 ≠ 303) (by decide : "error" ≠ "redirect")
  | ok outcome =>
      cases outcome with
      | proceed =>
          rw [conclude, result_map]
          exact iff_of_false ((hpage left).result registry _) (by decide : "proceed" ≠ "redirect")
      | redirect target => exact iff_of_true rfl rfl

theorem exchange_status_of_gate {route : Route} {page : Navigation → Dialogue Pages.Reply}
    (h : gate a.request = some (route, page)) :
    (c.exchange registry a s).response.status =
      (result registry (Console.visit route page (c.start a.now a.request)) s).response.status := by
  obtain ⟨trimmed, htrimmed, hanswering⟩ := answering_of_gate h
  rw [exchange, hanswering, result_map, finish_status]
  exact (htrimmed _).1

theorem exchange_status_of_unguarded (h : gate a.request = none) :
    (c.exchange registry a s).response.status ∈ unguardedStatuses := by
  obtain ⟨answer, hanswer⟩ := exists_unguarded h
  rw [exchange, answering_of_unguarded hanswer, result_done, finish_status]
  exact hanswer.status c

theorem dispatch?_home_iff (registry : Responder σ) (s : σ) (c : Console) (a : Arrival) :
    (∃ d ∈ c.dispatch? registry a s, d.label = ⟨"home", "redirect"⟩) ↔
      (c.exchange registry a s).label.path = "/" ∧
        (c.exchange registry a s).label.status = 303 := by
  rw [dispatch?]
  cases hgate : gate a.request with
  | none =>
      refine iff_of_false (by simp) ?_
      rintro ⟨-, hstatus⟩
      have hunguarded : (c.exchange registry a s).label.status ∈ unguardedStatuses :=
        exchange_status_of_unguarded hgate
      rw [hstatus] at hunguarded
      exact absurd hunguarded (by decide)
  | some found =>
      obtain ⟨route, page⟩ := found
      obtain ⟨hname, hpage⟩ := home_of_gate hgate
      simp only [Option.map_some, Option.mem_some_iff, exists_eq_left', Dispatch.label,
        OutcomeLabel.mk.injEq, Exchange.label, exchange_arrival]
      rw [hname, exchange_status_of_gate hgate]
      refine and_congr_right fun hpattern => ?_
      rw [hpage hpattern]
      refine (visit_redirects_iff ?_ _ s).symm
      intro n
      refine Pages.dashboard_status.mono (fun _ h => h) ?_
      intro reply hstatus h303
      rw [h303] at hstatus
      exact absurd hstatus (by decide)

theorem countP_home (registry : Responder σ) (arrivals : List Arrival) (c : Console) (s : σ) :
    (c.dispatches registry arrivals s).countP (fun d => d.label = ⟨"home", "redirect"⟩) =
      (c.exchanges registry arrivals s).countP fun e =>
        e.label.path = "/" ∧ e.label.status = 303 := by
  induction arrivals generalizing c s with
  | nil => rfl
  | cons a rest ih =>
      rw [dispatches, exchanges, List.countP_append, List.countP_cons, ih, Nat.add_comm]
      congr 1
      have hhome := dispatch?_home_iff registry s c a
      simp only [decide_eq_true_eq, ← hhome]
      cases c.dispatch? registry a s with
      | none => simp
      | some d => simp [List.countP_cons]

private theorem count_exchanges (exchanges : List Exchange) (counters : List (RequestLabel × Nat))
    (method path : String) (status : Nat) :
    Counters.count ⟨method, path, status⟩
        (Counters.raiseAll (exchanges.map Exchange.label) counters) =
      Counters.count ⟨method, path, status⟩ counters +
        exchanges.countP fun e => e.arrival.request.method = method ∧
          e.arrival.request.pattern = path ∧ e.response.status = status := by
  rw [Counters.count_raiseAll, List.countP_map]
  congr 1
  refine List.countP_congr ?_
  intro e _
  simp only [Function.comp_apply, decide_eq_true_eq, Exchange.label, RequestLabel.mk.injEq]

private theorem count_outcome {outcome : String} {p : Except ConsoleError Outcome → Bool}
    (hp : ∀ decision, outcomeName decision = outcome ↔ p decision = true)
    (dispatches : List Dispatch) (counters : List (OutcomeLabel × Nat)) (name : String) :
    Counters.count ⟨name, outcome⟩
        (Counters.raiseAll (dispatches.map Dispatch.label) counters) =
      Counters.count ⟨name, outcome⟩ counters +
        dispatches.countP fun d => d.route.name = name ∧ p d.decision := by
  rw [Counters.count_raiseAll, List.countP_map]
  congr 1
  refine List.countP_congr ?_
  intro d _
  simp only [Function.comp_apply, decide_eq_true_eq, Dispatch.label, OutcomeLabel.mk.injEq, hp]

/-- Over any run of requests, once the counters are registered, each request is counted under its
method, its pattern and its status, and each that came to a handler under the route of that and the
decision of its guard. Home is counted to have redirected as often as its path was answered with a
redirect. -/
theorem counters_tally (registry : Responder σ) (arrivals : List Arrival) (c : Console) (s : σ) :
    let started := c.registered
    ∃ before after, started.counters = some before ∧
      (started.leaves registry arrivals s).1.counters = some after ∧
      Counters.Tallies before after (started.exchanges registry arrivals s)
        (started.dispatches registry arrivals s) := by
  intro started
  refine ⟨c.counters.getD {}, _, rfl, leaves_counted registry arrivals started s, ?_⟩
  constructor
  case requests => exact count_exchanges _ _
  case dispatched =>
    intro name
    rw [Counters.total_raiseAll, List.countP_map]
    rfl
  case redirected =>
    refine count_outcome (p := (· matches .ok (.redirect _))) ?_ _ _
    intro decision
    rcases decision with e | _ | target <;> simp [outcomeName]
  case proceeded =>
    refine count_outcome (p := (· matches .ok .proceed)) ?_ _ _
    intro decision
    rcases decision with e | _ | target <;> simp [outcomeName]
  case failed =>
    refine count_outcome (p := (· matches .error _)) ?_ _ _
    intro decision
    rcases decision with e | _ | target <;> simp [outcomeName]
  case home =>
    refine ⟨(started.dispatches registry arrivals s).countP fun d =>
      d.label = ⟨"home", "redirect"⟩, ?_, ?_⟩
    · rw [Counters.count_raiseAll, List.countP_map]
      rfl
    · rw [Counters.total_raiseAll, List.countP_map, countP_home]
      rfl

end Console

end RegistryConsole
