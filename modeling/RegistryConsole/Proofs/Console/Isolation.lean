import Mathlib.Data.List.Forall2
import RegistryConsole.Proofs.Console.Access
import RegistryConsole.Proofs.Console.Persistence
import RegistryConsole.Proofs.Console.Traffic
/-!
# Browsers apart from one another

All browsers share one console, but a browser that sends no session cookie except its own is served
as if it were alone: the record of a session is found under ids that were drawn for its browser
only, and the runtime document, which is fetched for whoever comes first, is the same for everyone.
So two consoles that agree on the records of one browser, and on what they would make of the
document, serve it alike (`AlikeFor`), and requests of other browsers do not break that agreement.
-/
namespace RegistryConsole

open Registry Dialogue SessionCookie

def Registry.Dialogue.answeringBy (f : Registry.Request → Answer) : Responder Unit :=
  fun _ call => (f call, ())

/-- Every id that a request can bring to the records satisfies `p`. -/
structure Arrival.Names (a : Arrival) (p : String → Prop) : Prop where
  drawn : p a.draws.sessionId
  presented : ∀ value ∈ Http.cookieValue? name a.request.headers, p value

/-- Two exchanges over one arrival, the same but for requests to the registry that satisfy `fetch`,
and for what is told of other requests. -/
structure Exchange.SameBut (fetch : Registry.Request → Prop) (e e' : Exchange) : Prop where
  arrival : e'.arrival = e.arrival
  response : ¬ e.arrival.request.AsksCounters → e'.response = e.response
  calls : ∃ fetches fetches' rest, e.calls = fetches ++ rest ∧ e'.calls = fetches' ++ rest ∧
    ∀ call ∈ fetches ++ fetches', fetch call

namespace Console

/-- The requests for the runtime document. -/
def Fetches (c : Console) : Registry.Request → Prop :=
  c.root.Sends .get c.cache.path

/-- Two consoles are alike to a browser that names the ids of `own` only. -/
structure AlikeFor (document : Answer) (own : String → Prop) (c c' : Console) : Prop where
  settings : c'.settings = c.settings
  cache : c'.cache.filledFrom c'.root document = c.cache.filledFrom c.root document
  records : ∀ id, own id → c'.records.lookup id = c.records.lookup id
  counters : c'.counters.isSome = c.counters.isSome

namespace AlikeFor

variable {document : Answer} {own : String → Prop} {c c' c'' : Console}

theorem refl (c : Console) : AlikeFor document own c c :=
  ⟨rfl, rfl, fun _ _ => rfl, rfl⟩

theorem symm (h : AlikeFor document own c c') : AlikeFor document own c' c :=
  ⟨h.settings.symm, h.cache.symm, fun id hid => (h.records id hid).symm, h.counters.symm⟩

theorem trans (h : AlikeFor document own c c') (h' : AlikeFor document own c' c'') :
    AlikeFor document own c c'' :=
  ⟨h'.settings.trans h.settings, h'.cache.trans h.cache,
    fun id hid => (h'.records id hid).trans (h.records id hid), h'.counters.trans h.counters⟩

theorem root (h : AlikeFor document own c c') : c'.root = c.root := by
  rw [Console.root, h.settings]
  rfl

theorem fetches (h : AlikeFor document own c c') : c'.Fetches = c.Fetches := by
  have hpath : (c'.cache.filledFrom c'.root document).path =
      (c.cache.filledFrom c.root document).path := congrArg RuntimeCache.path h.cache
  rw [Fetches, h.root, show c'.cache.path = c.cache.path from hpath]
  rfl

theorem present {headers : Http.Headers} (h : AlikeFor document own c c')
    (hown : ∀ value ∈ Http.cookieValue? name headers, own value) :
    present headers c'.records = present headers c.records := by
  rw [SessionCookie.present, SessionCookie.present]
  cases hid : (Http.cookieValue? name headers).filter isId with
  | none => rfl
  | some id =>
      have hvalue : id ∈ Http.cookieValue? name headers := (Option.filter_eq_some_iff.mp hid).1
      simp only [Option.bind_some, h.records id (hown id hvalue)]

theorem start {a : Arrival} (h : AlikeFor document own c c') (ha : a.Names own) :
    (c'.start a.now a.request).loadedFrom document =
      (c.start a.now a.request).loadedFrom document := by
  have hcache : c'.cache.filledFrom c.root document = c.cache.filledFrom c.root document := by
    rw [← h.cache, h.root]
  have hresolved : c'.cache.resolvedFrom c.root document =
      c.cache.resolvedFrom c.root document := congrArg RuntimeCache.resolved hcache
  have hloaded (c₀ : Console) : (c₀.start a.now a.request).loadedFrom document =
      { c₀.start a.now a.request with
        loaded := c₀.cache.resolvedFrom c₀.root document
        cache := c₀.cache.filledFrom c₀.root document } := rfl
  rw [hloaded, hloaded, h.root, hcache, hresolved, Console.start, Console.start,
    h.present ha.presented, navigation, navigation, h.settings]

end AlikeFor

section Finish

variable {c c' : Console} (now : Instant) (draws : Draws) (request : Http.Request)
variable (place : Option (Route.Place × Route.Arguments)) (presented : Presented)
variable (r : Http.Response) (visit : Option Visit)

theorem finish_response_congr (h : c'.settings = c.settings) :
    (c'.finish now draws request place presented r visit).1 =
      (c.finish now draws request place presented r visit).1 := by
  have happly (items : SessionRecord) (settlement : Settlement) :
      (c'.applySettlement now items r settlement).1 =
        (c.applySettlement now items r settlement).1 := by
    cases settlement with
    | untouched => rfl
    | removed => rfl
    | saved id => rw [applySettlement, applySettlement, h]
  rw [finish_response, finish_response, happly]

theorem lookup_save_ne {id other : String} (h : other ≠ id) (record : SessionRecord)
    (records : SessionRecords) : (records.save id record).lookup other = records.lookup other := by
  rw [SessionRecords.save, Json.lookup_cons_ite, if_neg h]
  exact Json.lookup_filter_ne h records

variable {document : Answer} {own : String → Prop}

theorem alikeFor_finish (c : Console)
    (hcache : ∀ v ∈ visit, v.navigation.cache = c.cache.filledFrom c.root document)
    (hsaved : ∀ id, settlementOf presented draws r.status visit = .saved id → ¬ own id) :
    AlikeFor document own c (c.finish now draws request place presented r visit).2 where
  settings := finish_settings ..
  cache := by
    rw [Console.root, finish_settings, finish_cache]
    cases visit with
    | none => rfl
    | some v =>
        rw [Option.map_some, Option.getD_some, hcache v rfl]
        exact c.cache.filledFrom_filledFrom c.root document
  records := by
    intro id hid
    rw [finish_records]
    cases hsettle : settlementOf presented draws r.status visit with
    | untouched => rfl
    | removed => rfl
    | saved key =>
        have hne : id ≠ key := by
          rintro rfl
          exact hsaved id hsettle hid
        exact lookup_save_ne hne _ _
  counters := finish_counters ..

theorem settlementOf_none (status : Nat) (id : String) :
    settlementOf presented draws status none ≠ .saved id := by
  intro hsaved
  have hunchanged : (left none).changed = false := rfl
  obtain hkept | hremoved := settlementOf_of_unchanged presented draws status hunchanged
  · cases hsaved.symm.trans hkept
  · cases hsaved.symm.trans hremoved

theorem AlikeFor.finish (h : AlikeFor document own c c') (v : Visit) :
    AlikeFor document own (c.finish now draws request place presented r (some v)).2
      (c'.finish now draws request place presented r (some v)).2 where
  settings := by rw [finish_settings, finish_settings, h.settings]
  cache := by
    rw [Console.root, Console.root, finish_settings, finish_settings, finish_cache, finish_cache,
      h.settings]
    rfl
  records := by
    intro id hid
    rw [finish_records, finish_records]
    cases settlementOf presented draws r.status (some v) with
    | untouched => exact h.records id hid
    | removed => exact h.records id hid
    | saved key =>
        by_cases hkey : id = key
        · rw [hkey, recordsOf, recordsOf, lookup_save_self, lookup_save_self]
        · rw [recordsOf, recordsOf, lookup_save_ne hkey, lookup_save_ne hkey]
          exact h.records id hid
  counters := by rw [finish_counters, finish_counters, h.counters]

end Finish

section Answering

variable {f : Registry.Request → Answer} {document : Answer} {own : String → Prop}
variable {c c' : Console} {a : Arrival}

private theorem visit_answeringBy {request : Http.Request} {route : Route}
    {page : Navigation → Dialogue Pages.Reply} (hgate : gate request = some (route, page))
    (n : Navigation)
    (hdocument : ∀ call, n.clients.root.Sends .get n.cache.path call → f call = document) :
    result (answeringBy f) (visit route page n) () =
        result (answeringBy f) (attend route page (n.loadedFrom document)) () ∧
      ∃ fetches, (∀ call ∈ fetches, n.clients.root.Sends .get n.cache.path call) ∧
        calls (answeringBy f) (visit route page n) () =
          fetches ++ calls (answeringBy f) (attend route page (n.loadedFrom document)) () := by
  have hload : result (answeringBy f) n.loadRuntime () = n.loadedFrom document :=
    Navigation.loadRuntime_of_replies fun _ call _ hsends => hdocument call hsends
  rw [visit_eq_attend (loadsFirst_of_gate hgate), result_bind, calls_bind, hload]
  exact ⟨rfl, _, n.loadRuntime_meets.calls (answeringBy f) (), rfl⟩

private theorem alikeFor_answering_of_unguarded (hgate : gate a.request = none) (c : Console) :
    AlikeFor document own c (result (answeringBy f) (c.answering a) ()).2 := by
  obtain ⟨answer, hanswer⟩ := exists_unguarded hgate
  rw [answering_of_unguarded hanswer, result_done]
  refine alikeFor_finish _ _ _ _ _ _ none c ?_ ?_
  · intro v hv
    cases hv
  · intro id hid
    exact absurd hid (settlementOf_none _ _ _ id)

/-- A request that names no own id makes no difference. -/
theorem alikeFor_answering (hdocument : ∀ call, c.Fetches call → f call = document)
    (ha : a.Names fun id => ¬ own id) :
    AlikeFor document own c (result (answeringBy f) (c.answering a) ()).2 := by
  cases hgate : gate a.request with
  | none => exact alikeFor_answering_of_unguarded hgate c
  | some found =>
      obtain ⟨route, page⟩ := found
      obtain ⟨trimmed, -, hanswering⟩ := answering_of_gate hgate
      obtain ⟨hvisit, -⟩ := visit_answeringBy hgate (c.start a.now a.request) hdocument
      rw [hanswering, result_map, hvisit]
      have hattend := (attend_discreet (loadsFirst_of_gate hgate) (page_discreet hgate)
        ((c.start a.now a.request).loadedFrom document)).meets.result (answeringBy f) ()
      refine alikeFor_finish _ _ _ _ _ _ _ c ?_ ?_
      · intro v hv
        cases hv
        exact hattend.2
      · intro id hid
        rcases settle_eq_saved hid with hpresented | rfl
        · exact ha.presented id (Option.filter_eq_some_iff.mp hpresented).1
        · exact ha.drawn

theorem AlikeFor.answering (h : AlikeFor document own c c')
    (hdocument : ∀ call, c.Fetches call → f call = document) (ha : a.Names own) :
    AlikeFor document own (result (answeringBy f) (c.answering a) ()).2
        (result (answeringBy f) (c'.answering a) ()).2 ∧
      Exchange.SameBut c.Fetches (c.exchange (answeringBy f) a ())
        (c'.exchange (answeringBy f) a ()) := by
  cases hgate : gate a.request with
  | none =>
      have hstays (c : Console) :
          AlikeFor document own c (result (answeringBy f) (c.answering a) ()).2 :=
        alikeFor_answering_of_unguarded hgate c
      obtain ⟨answer, hanswer⟩ := exists_unguarded hgate
      refine ⟨(hstays c).symm.trans (h.trans (hstays c')), ?_⟩
      rw [exchange, exchange, answering_of_unguarded hanswer, answering_of_unguarded hanswer]
      refine ⟨rfl, ?_, [], [], [], rfl, rfl, ?_⟩
      · intro hasks
        rw [result_done, result_done, hanswer.answer_eq hasks c c' h.counters,
          h.present ha.presented]
        dsimp only
        rw [finish_response_congr _ _ _ _ _ _ _ h.settings]
      · intro call hcall
        cases hcall
  | some found =>
      obtain ⟨route, page⟩ := found
      obtain ⟨trimmed, -, hanswering⟩ := answering_of_gate hgate
      have hdocument' : ∀ call, c'.Fetches call → f call = document := by
        rwa [h.fetches]
      obtain ⟨hvisit, fetches, hfetches, hcalls⟩ :=
        visit_answeringBy hgate (c.start a.now a.request) hdocument
      obtain ⟨hvisit', fetches', hfetches', hcalls'⟩ :=
        visit_answeringBy hgate (c'.start a.now a.request) hdocument'
      -- once each has asked for the document, both visits go on from one navigation
      rw [h.start ha] at hvisit' hcalls'
      rw [exchange, exchange, hanswering, hanswering, result_map, result_map, calls_map, calls_map,
        hvisit, hvisit', hcalls, hcalls', h.present ha.presented]
      generalize calls (answeringBy f) (attend _ _ _) () = rest
      generalize result (answeringBy f) (attend _ _ _) () = v
      refine ⟨h.finish _ _ _ _ _ _ v, rfl, ?_, fetches, fetches', rest, rfl, rfl, ?_⟩
      · intro _
        dsimp only
        rw [finish_response_congr _ _ _ _ _ _ _ h.settings]
      · intro call hcall
        rcases List.mem_append.mp hcall with hcall | hcall
        · exact hfetches call hcall
        · rw [← h.fetches]
          exact hfetches' call hcall

end Answering

/-- Browsers send no session cookie but one that they were given before. What is drawn for them are
ids, and those of two browsers differ. -/
structure Separate (exchanges : List Exchange) : Prop where
  ids : ∀ e ∈ exchanges, isId e.arrival.draws.sessionId = true
  apart : ∀ e ∈ exchanges, ∀ e' ∈ exchanges, e.arrival.browser ≠ e'.arrival.browser →
    e.arrival.draws.sessionId ≠ e'.arrival.draws.sessionId
  given : ∀ i, ∀ e ∈ exchanges[i]?, ∀ value ∈ Http.cookieValue? name e.arrival.request.headers,
    ∃ earlier ∈ exchanges.take i, earlier.arrival.browser = e.arrival.browser ∧
      kept none earlier.response = some value

def DrawnFor (exchanges : List Exchange) (browser : Nat) (id : String) : Prop :=
  ∃ e ∈ exchanges, e.arrival.browser = browser ∧ e.arrival.draws.sessionId = id

theorem kept_exchange {σ : Type} {registry : Responder σ} {c : Console} {s : σ} {a : Arrival}
    {value : String} (hid : isId a.draws.sessionId = true)
    (h : kept none (c.exchange registry a s).response = some value) :
    Http.cookieValue? name a.request.headers = some value ∨ value = a.draws.sessionId := by
  rw [exchange] at h
  cases hgate : gate a.request with
  | none =>
      obtain ⟨answer, hanswer⟩ := exists_unguarded hgate
      rw [answering_of_unguarded hanswer, result_done] at h
      dsimp only at h
      exact kept_finish c _ _ _ _ _ (hanswer.setsNoCookie c) hid h
  | some found =>
      obtain ⟨route, page⟩ := found
      obtain ⟨trimmed, htrimmed, hanswering⟩ := answering_of_gate hgate
      rw [hanswering, result_map] at h
      have hplain := (visit_discreet hgate (c.start a.now a.request)).meets.result registry s
      rw [Http.Response.SetsNoCookie, ← (htrimmed _).2] at hplain
      dsimp only at h
      exact kept_finish c _ _ _ _ _ hplain hid h

section Exchanges

variable {f : Registry.Request → Answer} {document : Answer} {own : String → Prop}
variable {c c' : Console} {arrivals : List Arrival}

private theorem drawnFor_of_presented (h : Separate (c.exchanges (answeringBy f) arrivals ()))
    {i : Nat} {e : Exchange} (he : e ∈ (c.exchanges (answeringBy f) arrivals ())[i]?)
    {value : String} (hvalue : value ∈ Http.cookieValue? name e.arrival.request.headers) :
    DrawnFor (c.exchanges (answeringBy f) arrivals ()) e.arrival.browser value := by
  induction i using Nat.strong_induction_on generalizing e with
  | h i ih =>
      obtain ⟨earlier, hearlier, hbrowser, hkept⟩ := h.given i e he value hvalue
      obtain ⟨j, hj⟩ := List.mem_iff_getElem?.mp hearlier
      rw [List.getElem?_take] at hj
      have hlt : j < i := by
        by_contra hle
        rw [if_neg hle] at hj
        cases hj
      rw [if_pos hlt] at hj
      have hmem := List.mem_of_getElem? hj
      obtain ⟨c₀, s₀, hexchange⟩ := exists_of_mem_exchanges hmem
      rw [hexchange] at hkept
      -- the earlier response gave the cookie that its own request brought, or a fresh one
      rcases kept_exchange (h.ids earlier hmem) hkept with hpresented | rfl
      · rw [← hbrowser]
        exact ih j hlt hj hpresented
      · exact ⟨earlier, hmem, hbrowser, rfl⟩

private theorem names_of_separate (h : Separate (c.exchanges (answeringBy f) arrivals ()))
    {a : Arrival} (ha : a ∈ arrivals) :
    a.Names (DrawnFor (c.exchanges (answeringBy f) arrivals ()) a.browser) := by
  rw [← map_arrival_exchanges (answeringBy f) arrivals c ()] at ha
  obtain ⟨e, he, rfl⟩ := List.mem_map.mp ha
  refine ⟨⟨e, he, rfl, rfl⟩, ?_⟩
  obtain ⟨i, hi⟩ := List.mem_iff_getElem?.mp he
  exact fun value hvalue => drawnFor_of_presented h hi hvalue

private theorem not_drawnFor {exchanges : List Exchange} (h : Separate exchanges)
    {browser browser' : Nat} (hne : browser ≠ browser') {id : String}
    (hid : DrawnFor exchanges browser id) : ¬ DrawnFor exchanges browser' id := by
  rintro ⟨e', he', rfl, hid'⟩
  obtain ⟨e, he, rfl, rfl⟩ := hid
  exact h.apart e he e' he' hne hid'.symm

/-- Two consoles that are alike to a browser serve it alike in the midst of other requests. -/
theorem exchanges_sameBut {browser : Nat} (h : AlikeFor document own c c')
    (hdocument : ∀ call, c.Fetches call → f call = document)
    (hown : ∀ a ∈ arrivals, a.browser = browser → a.Names own)
    (hother : ∀ a ∈ arrivals, a.browser ≠ browser → a.Names fun id => ¬ own id) :
    List.Forall₂ (Exchange.SameBut c.Fetches)
      ((c.exchanges (answeringBy f) arrivals ()).filter (·.arrival.browser = browser))
      (c'.exchanges (answeringBy f) (arrivals.filter (·.browser = browser)) ()) := by
  induction arrivals generalizing c c' with
  | nil => exact .nil
  | cons a rest ih =>
      have hrest := fun a ha => hown a (List.mem_cons_of_mem _ ha)
      have hrest' := fun a ha => hother a (List.mem_cons_of_mem _ ha)
      have hfetches : (result (answeringBy f) (c.answering a) ()).2.Fetches = c.Fetches := by
        have hnobody : a.Names fun _ => ¬ False := ⟨not_false, fun _ _ => not_false⟩
        exact (alikeFor_answering hdocument hnobody).fetches
      rw [exchanges]
      -- both consoles serve the browser's own requests, and the first alone those of the others
      by_cases hbrowser : a.browser = browser
      · obtain ⟨hnext, hsame⟩ := h.answering hdocument (hown a List.mem_cons_self hbrowser)
        have hlater := ih hnext (by rwa [hfetches]) hrest hrest'
        rw [hfetches] at hlater
        simp only [List.filter_cons, exchange_arrival, hbrowser, decide_true, if_true]
        rw [exchanges]
        exact .cons hsame hlater
      · have hnext := (alikeFor_answering hdocument
          (hother a List.mem_cons_self hbrowser)).symm.trans h
        have hlater := ih hnext (by rwa [hfetches]) hrest hrest'
        rw [hfetches] at hlater
        simp only [List.filter_cons, exchange_arrival, hbrowser, decide_false, Bool.false_eq_true,
          if_false]
        exact hlater

end Exchanges

private def announcement : Answer :=
  .response 200 (Text.Utf8.encode "\x7b\"auth\":\x7b\"sessionEndpoint\":\"/session\"\x7d\x7d")

/-- A registry that tells its users apart by a cookie of theirs. -/
private def twoUsers (call : Registry.Request) : Answer :=
  if call.url.path ≠ ["session".toList] then announcement
  else if call.cookie = some "user=grace" then
    .response 200 (Text.Utf8.encode "\x7b\"name\":\"Grace\",\"email\":\"grace@example.org\"\x7d")
  else .response 200 (Text.Utf8.encode "\x7b\"name\":\"Ada\",\"email\":\"ada@example.org\"\x7d")

private def shared : Console :=
  .ofSettings { registry := { url := "http://registry" } }

private def arrival (browser : Nat) (target cookie sessionId : String) : Arrival where
  browser
  now := ⟨0, 0⟩
  draws := ⟨sessionId, "1", 0⟩
  request := { method := "GET", target, headers := [("cookie", cookie)] }

private def adaAndGrace : List Arrival := [
  arrival 0 "/login" "user=ada" "AAAAAAAAAAAAAAAAAAAAAA",
  arrival 1 "/login" "user=grace" "BBBBBBBBBBBBBBBBBBBBBA",
  arrival 0 "/forbidden" "user=ada; id=AAAAAAAAAAAAAAAAAAAAAA" "CCCCCCCCCCCCCCCCCCCCCA"]

private theorem shared_fetches (call : Registry.Request) (h : shared.Fetches call) :
    twoUsers call = announcement := by
  have hpath : (Url.ofString? (shared.root.urlFor shared.cache.path)).map Url.path ≠
      some ["session".toList] := by
    decide +kernel
  rw [h.2] at hpath
  exact if_pos fun hurl => hpath (congrArg some hurl)

private theorem adaAndGrace_responses :
    let run := shared.exchanges (answeringBy twoUsers) adaAndGrace ()
    run.map (·.response.status) = [303, 303, 403] ∧
      ∀ i : Fin 3, ∀ e ∈ run[i.val]?, ∀ value ∈ Http.cookieValue? name e.arrival.request.headers,
        ∃ earlier ∈ run.take i, earlier.arrival.browser = e.arrival.browser ∧
          kept none earlier.response = some value := by
  decide +kernel

private theorem adaAndGrace_separate :
    Separate (shared.exchanges (answeringBy twoUsers) adaAndGrace ()) where
  ids := by
    have hids : ∀ a ∈ adaAndGrace, isId a.draws.sessionId = true := by decide
    intro e he
    exact hids e.arrival (arrival_mem_of_mem_exchanges he)
  apart := by
    have hapart : ∀ a ∈ adaAndGrace, ∀ a' ∈ adaAndGrace, a.browser ≠ a'.browser →
        a.draws.sessionId ≠ a'.draws.sessionId := by
      decide
    intro e he e' he'
    exact hapart e.arrival (arrival_mem_of_mem_exchanges he) e'.arrival
      (arrival_mem_of_mem_exchanges he')
  given := by
    intro i e he
    have hlength := congrArg List.length
      (map_arrival_exchanges (answeringBy twoUsers) adaAndGrace shared ())
    rw [List.length_map] at hlength
    obtain ⟨hi, -⟩ := List.getElem?_eq_some_iff.mp he
    rw [hlength] at hi
    exact adaAndGrace_responses.2 ⟨i, hi⟩ e he

end Console

end RegistryConsole
