import RegistryConsole.Proofs.Console.Access
import RegistryConsole.Proofs.Console.Retention
/-!
# Anonymous traffic

While the registry tells of nobody's session, whatever browsers send, the console makes no record
and gives no browser an id. A removal would count as a change even of an empty storage, but the
guard of the log-out stops those who are not signed in before it.
-/
namespace RegistryConsole

open Registry Dialogue Route

/-- Where a configuration announces an endpoint for the session, no answer from there to one of the
requests tells of a session. -/
def Untold {σ : Type} (registry : Responder σ) (s : σ) (asked : List Registry.Request)
    (root : Client) (announced : Option RuntimeConfiguration) : Prop :=
  Replies registry s asked fun _ call given =>
    ∀ endpoint, Navigation.sessionEndpoint? announced = some endpoint →
      root.Sends .get endpoint call → given.told? SessionDetails.decode = none

namespace Console

open SessionCookie

variable {σ : Type} {registry : Responder σ} {s : σ} {c : Console} {a : Arrival}

theorem start_storage (hrecords : c.records = []) (now : Instant) (request : Http.Request) :
    (c.start now request).storage = {} := by
  have hrecord : (present request.headers c.records).record = none := by
    rw [present, hrecords]
    cases (Http.cookieValue? name request.headers).filter isId <;> rfl
  rw [start, navigation, hrecord]
  rfl

private theorem prepare_of_untold (hrecords : c.records = [])
    (huntold : Untold registry s (calls registry (c.start a.now a.request).prepare s) c.root
      (c.loaded registry s a).loaded) :
    result registry (c.start a.now a.request).prepare s = (.ok (), c.loaded registry s a) ∧
      (c.loaded registry s a).storage = {} ∧
      (c.loaded registry s a).readSession = .ok none := by
  obtain ⟨runtime, cache, hframe⟩ := (c.loaded_loaded registry s a).frame
  have hstorage : (c.loaded registry s a).storage = {} := by
    rw [hframe]
    exact start_storage hrecords a.now a.request
  refine ⟨?_, hstorage, ?_⟩
  · rw [Navigation.prepare, calls_bind] at huntold
    have hrefresh := huntold.right
    rw [← endState_eq_after] at hrefresh
    rw [Navigation.prepare, result_bind]
    refine Navigation.refreshSession_of_untold (loaded_source registry s c a)
      (hrefresh.mono ?_)
    intro _ call given hgiven endpoint hendpoint hsends
    refine hgiven endpoint hendpoint ?_
    rw [← loaded, hframe] at hsends
    exact hsends
  · rw [Navigation.readSession, hstorage]
    split
    · exact Snapshot.load_of_absent (fun _ => rfl) fun _ _ => rfl
    · rfl

/-- A request about which the registry tells nothing leaves no record and no id. -/
theorem answering_of_untold (hrecords : c.records = [])
    (huntold : Untold registry s (calls registry (c.answering a) s) c.root
      (result registry (c.answering a) s).2.cache.resolved) :
    (result registry (c.answering a) s).2.records = [] ∧
      (result registry (c.answering a) s).1.headers.get? "set-cookie" ∈
        [none, some (removal a.now)] := by
  cases hgate : gate a.request with
  | none =>
      obtain ⟨answer, hanswer⟩ := exists_unguarded hgate
      rw [answering_of_unguarded hanswer, result_done, ← hrecords]
      exact finish_of_unchanged _ _ _ _ _ _ _ rfl (hanswer.setsNoCookie c)
  | some found =>
      obtain ⟨route, page⟩ := found
      obtain ⟨name, own, fallback, hroute, -⟩ := loadsFirst_of_gate hgate
      obtain ⟨trimmed, htrimmed, hanswering⟩ := answering_of_gate hgate
      rw [cache_answering hgate, (c.loaded_loaded registry s a).resolved, hanswering, calls_map,
        visit_eq, hroute, evaluate_make, Dialogue.bind_assoc, calls_bind] at huntold
      obtain ⟨hprepare, hstorage, hread⟩ := prepare_of_untold hrecords huntold.left
      have hleft : (left (some (result registry (visit route page (c.start a.now a.request))
          s))).changed = false := by
        rw [left, Option.map_some, Option.getD_some,
          (visit_of_absent hgate hprepare hread).1, hstorage]
      have hplain := (visit_discreet hgate (c.start a.now a.request)).meets.result registry s
      rw [Http.Response.SetsNoCookie, ← (htrimmed _).2] at hplain
      rw [hanswering, result_map, ← hrecords]
      exact finish_of_unchanged _ _ _ _ _ _ _ hleft hplain

private theorem untold_of_keeps {asked : List Registry.Request} {root : Client}
    {cache cache' : RuntimeCache} (hkeeps : cache.Keeps cache')
    (h : Untold registry s asked root cache'.resolved) :
    Untold registry s asked root cache.resolved := by
  refine h.mono ?_
  intro _ call given hgiven endpoint hendpoint
  refine hgiven endpoint ?_
  obtain ⟨hannounced, hne⟩ := Option.filter_eq_some_iff.mp hendpoint
  obtain ⟨runtime, hruntime, rfl⟩ := Option.map_eq_some_iff.mp hannounced
  rw [Navigation.sessionEndpoint?, hkeeps.resolved runtime hruntime]
  exact Option.filter_some_pos hne

/-- Whatever browsers send, one after another, if none of them is told to be signed in by the
endpoint for the session that is announced in the end, then no record is ever made, and no browser
is given an id: cookies are only taken away. -/
theorem records_of_untold (registry : Responder σ) (arrivals : List Arrival) (c : Console) (s : σ)
    (hrecords : c.records = [])
    (huntold : Untold registry s ((c.exchanges registry arrivals s).flatMap Exchange.calls) c.root
      (c.leaves registry arrivals s).1.cache.resolved) :
    (∀ before, before <+: arrivals → (c.leaves registry before s).1.records = []) ∧
      ∀ e ∈ c.exchanges registry arrivals s, e.response.headers.get? "set-cookie" ∈
        [none, some (removal e.arrival.now)] := by
  induction arrivals generalizing c s with
  | nil =>
      refine ⟨?_, fun e he => by cases he⟩
      intro before hbefore
      rw [List.prefix_nil.mp hbefore]
      exact hrecords
  | cons a rest ih =>
      rw [exchanges, List.flatMap_cons, leaves] at huntold
      have hstep :=
        answering_of_untold hrecords (untold_of_keeps (keeps_leaves ..) huntold.left)
      have hlater := huntold.right
      rw [exchange, ← endState_eq_after] at hlater
      have hroot : (result registry (c.answering a) s).2.root = c.root := by
        rw [root, settings_answering]
        rfl
      rw [← hroot] at hlater
      obtain ⟨hleaves, hexchanges⟩ := ih _ _ hstep.1 hlater
      constructor
      · intro before hbefore
        obtain rfl | ⟨later, rfl, hlater⟩ := List.prefix_cons_iff.mp hbefore
        · exact hrecords
        · exact hleaves later hlater
      · intro e he
        rcases List.mem_cons.mp he with rfl | he
        · exact hstep.2
        · exact hexchanges e he

/-- A registry that announces an endpoint for the session and knows nobody there. -/
private def unfamiliar : Responder Unit := fun _ call =>
  (if call.url.path = ["session".toList] then
    .response 401 (Text.Utf8.encode "\x7b\"error\":\"login required\"\x7d")
  else .response 200 (Text.Utf8.encode
    "\x7b\"auth\":\x7b\"sessionEndpoint\":\"/session\"\x7d\x7d"), ())

private theorem unfamiliar_told? (s : Unit) (call : Registry.Request) :
    (unfamiliar s call).1.told? SessionDetails.decode = none := by
  rw [unfamiliar]
  split
  · rfl
  · decide +kernel

private def asking (method target : String) (headers : Http.Headers) : Arrival where
  browser := 0
  now := ⟨0, 0⟩
  draws := ⟨"AAAAAAAAAAAAAAAAAAAAAQ", "1", 0⟩
  request := { method, target, headers }

private def wandering : List Arrival := [
  asking "GET" "/" [], asking "GET" "/logout" [("cookie", "id=AAAAAAAAAAAAAAAAAAAAAA")],
  asking "POST" "/settings/authorities" [], asking "GET" "/login" [("cookie", "id=7")]]

/-- The removal of a cookie is all that a browser gets that comes with one of its own making. -/
theorem records_of_untold_unfamiliar :
    let c : Console := .ofSettings { registry := { url := "http://registry" } }
    (c.exchanges unfamiliar wandering ()).map (fun e => (e.response.status, e.calls.length,
        (e.response.headers.get? "set-cookie").isSome)) =
        [(303, 2, false), (303, 1, true), (303, 1, false), (200, 1, true)] ∧
      Navigation.sessionEndpoint? (c.leaves unfamiliar wandering ()).1.cache.resolved =
        some "/session" ∧
      c.records = [] ∧
      Untold unfamiliar () ((c.exchanges unfamiliar wandering ()).flatMap Exchange.calls) c.root
        (c.leaves unfamiliar wandering ()).1.cache.resolved ∧
      (c.leaves unfamiliar wandering ()).1.records = [] := by
  intro c
  have huntold : Untold unfamiliar ()
      ((c.exchanges unfamiliar wandering ()).flatMap Exchange.calls) c.root
      (c.leaves unfamiliar wandering ()).1.cache.resolved :=
    fun history call _ endpoint _ _ => unfamiliar_told? (after unfamiliar () history) call
  exact ⟨by decide +kernel, by decide +kernel, rfl, huntold,
    (records_of_untold unfamiliar wandering c () rfl huntold).1 wandering (List.prefix_refl _)⟩

end Console

end RegistryConsole
