import RegistryConsole.Proofs.Console.Access
import RegistryConsole.Proofs.Console.Departure
import RegistryConsole.Proofs.Console.Persistence
/-!
# Chains of requests

A browser that follows redirects and keeps its cookies finds, when it comes back, what its last
request left. `Hop` says all that later proofs need of one redirected request.
-/
namespace RegistryConsole

open Registry Dialogue Console

/-- The requests of one browser to a console, while the time stands still. -/
structure Chain (σ : Type) where
  registry : Responder σ
  /-- The registry's state before the first request. -/
  state : σ
  /-- The console before the first request. -/
  console : Console
  now : Instant
  draws : Nat → Draws
  requests : Nat → Http.Request

namespace Chain

variable {σ : Type} (k : Chain σ)

/-- The console and the registry's state before a request. -/
def before : Nat → Console × σ
  | 0 => (k.console, k.state)
  | i + 1 =>
    let (c, s) := before i
    let answering := c.serve k.now (k.draws i) (k.requests i)
    ((result k.registry answering s).2, endState k.registry answering s)

def answering (i : Nat) : Dialogue (Http.Response × Console) :=
  (k.before i).1.serve k.now (k.draws i) (k.requests i)

/-- The navigation of a request before its guard. -/
def start (i : Nat) : Navigation :=
  (k.before i).1.start k.now (k.requests i)

def response (i : Nat) : Http.Response :=
  (result k.registry (k.answering i) (k.before i).2).1

/-- What the registry is asked before a request. -/
def asked : Nat → List Registry.Request
  | 0 => []
  | i + 1 => asked i ++ calls k.registry (k.answering i) (k.before i).2

/-- All requests before were redirected. -/
def Reaches (i : Nat) : Prop :=
  ∀ j < i, (k.response j).redirect? ≠ none

/-- The browser follows each redirect with its cookies, and what is drawn for a session is an id. -/
structure IsFollowed : Prop where
  ids : ∀ i, SessionCookie.isId (k.draws i).sessionId = true
  follows : ∀ i, k.Reaches (i + 1) → (k.requests (i + 1)).Follows (k.requests i) (k.response i)

/-- The configuration that one answer for the runtime document leads to. -/
def loaded (document : Answer) : Option RuntimeConfiguration :=
  k.console.cache.resolvedFrom k.console.root document

/-- As far as the chain goes, the requests for the runtime document are all given one answer, and so
are those for the session. These may fail once anything was deleted. -/
structure IsSteady (document session : Answer) : Prop where
  documents : ∀ i, k.Reaches i → Replies k.registry k.state (k.asked (i + 1)) fun _ call given =>
    k.console.root.Sends .get k.console.cache.path call → given = document
  sessions : ∀ i, k.Reaches i →
    Replies k.registry k.state (k.asked (i + 1)) fun history call given => ∀ endpoint,
      Navigation.sessionEndpoint? (k.loaded document) = some endpoint →
      k.console.root.Sends .get endpoint call →
      given = session ∨ Navigation.Deletes history ∧ ¬ given.IsSuccess

theorem before_state (i : Nat) : (k.before i).2 = after k.registry k.state (k.asked i) := by
  induction i with
  | zero => rfl
  | succ i ih =>
      rw [asked, after_append, ← ih, ← endState_eq_after]
      rfl

theorem before_settings (i : Nat) : (k.before i).1.settings = k.console.settings := by
  induction i with
  | zero => rfl
  | succ i ih =>
      rw [before]
      simp only [serve, result_map]
      exact (finish_settings ..).trans ih

theorem before_root (i : Nat) : (k.before i).1.root = k.console.root := by
  rw [Console.root, k.before_settings]
  rfl

section Answering

variable {k} {i : Nat} {route : Route} {page : Navigation → Dialogue Pages.Reply}

private theorem answering_result (h : gate (k.requests i) = some (route, page)) :
    ∃ r, SameHead r (result k.registry (visit route page (k.start i)) (k.before i).2).response ∧
      result k.registry (k.answering i) (k.before i).2 =
        (k.before i).1.finish k.now (k.draws i) (k.requests i)
          (Route.Place.ofPath? (k.requests i).path.toList)
          (SessionCookie.present (k.requests i).headers (k.before i).1.records) r
          (some (result k.registry (visit route page (k.start i)) (k.before i).2)) := by
  obtain ⟨trimmed, htrimmed, hserve⟩ := serve_of_gate h
  rw [answering, hserve, result_map]
  exact ⟨_, htrimmed _, rfl⟩

private theorem gate_of_redirect (h : (k.response i).redirect? ≠ none) :
    ∃ route page, gate (k.requests i) = some (route, page) := by
  cases hgate : gate (k.requests i) with
  | some found => exact ⟨found.1, found.2, rfl⟩
  | none =>
      obtain ⟨answer, hanswer⟩ := exists_unguarded hgate
      have hstatus := hanswer.status (k.before i).1
      rw [Chain.response, answering, serve_of_unguarded hanswer, result_done] at h
      refine absurd ((finish_redirect? ..).trans (Pages.redirect?_eq_none ?_)) h
      simp only [unguardedStatuses, List.mem_cons, List.not_mem_nil, or_false] at hstatus
      omega

private theorem calls_prepare (h : gate (k.requests i) = some (route, page)) :
    ∃ later, calls k.registry (k.answering i) (k.before i).2 =
      calls k.registry (k.start i).prepare (k.before i).2 ++ later := by
  obtain ⟨name, own, fallback, hroute⟩ :
      ∃ name own fallback, route = Route.make name own fallback := by
    obtain ⟨-, rfl, -⟩ | ⟨endpoint, arguments, -, rfl, -⟩ := gate_cases h
    · exact ⟨_, _, _, rfl⟩
    · cases endpoint <;> exact ⟨_, _, _, rfl⟩
  rw [answering, calls_serve, passage, h]
  simp only [Option.map_some, Option.elim_some, Passage.through]
  rw [hroute, Route.evaluate_make, calls_bind, List.append_assoc]
  exact ⟨_, rfl⟩

end Answering

/-- What the browser's record holds when a request comes. -/
def items (i : Nat) : SessionRecord :=
  (k.before i).1.itemsAt (k.requests i)

/-- What can be read of the session when a request comes, under the configuration of the chain. -/
def read (document : Answer) (i : Nat) : Except StorageError (Option Session) :=
  Navigation.reading (k.loaded document) k.now (k.items i)

def details (document session : Answer) : Option SessionDetails :=
  Navigation.detailsOf k.console.root (k.loaded document) session

def ttl : Instant.Span :=
  .ofSeconds k.console.settings.session.ttlSeconds

/-- The console has not obtained the configuration yet, or keeps it. -/
def KeepsLoaded (document : Answer) (i : Nat) : Prop :=
  (k.before i).1.cache = k.console.cache ∨
    (k.before i).1.cache = { k.console.cache with resolved := k.loaded document }

/-- What happens at one hop: the session is renewed, the browser departs, and it comes back with
what was left. -/
structure Hop (document session : Answer) (i : Nat) (ready left : Navigation) : Prop where
  renewed : ∃ answer : Envelope SessionDetails,
    (answer.data? = k.details document session ∨
      Navigation.Deletes (k.asked i) ∧ answer.data? = none) ∧
    ready.readSession = (answer.data?.map fun details =>
      .ok (Snapshot.sessionOf k.now k.ttl details)).getD (k.read document i)
  source : ready.source = .announced
  isOpen : ready.storage.IsOpen
  now : ready.now = k.now
  loaded : ready.loaded = k.loaded document
  departure : Departure (k.requests i).endpoint? ready left (k.requests (i + 1)).target
  items : k.items (i + 1) = left.storage.items

variable {k} {document session : Answer} {i : Nat}

theorem KeepsLoaded.resolvedFrom (h : k.KeepsLoaded document i) :
    (k.before i).1.cache.resolvedFrom k.console.root document = k.loaded document := by
  obtain h | h := h
  · rw [h]
    rfl
  · rw [h]
    exact k.console.cache.resolvedFrom_init k.console.root document

theorem KeepsLoaded.path (h : k.KeepsLoaded document i) :
    (k.before i).1.cache.path = k.console.cache.path := by
  obtain h | h := h <;> rw [h]

theorem KeepsLoaded.resolved (h : k.KeepsLoaded document i) :
    { (k.before i).1.cache with resolved := k.loaded document } =
      { k.console.cache with resolved := k.loaded document } := by
  obtain h | h := h <;> rw [h]

private theorem prepare_result (hsteady : k.IsSteady document session)
    (hkeeps : k.KeepsLoaded document i) (hreaches : k.Reaches i) {later : List Registry.Request}
    (hcalls : calls k.registry (k.answering i) (k.before i).2 =
      calls k.registry (k.start i).prepare (k.before i).2 ++ later) :
    ∃ answer : Envelope SessionDetails,
      (answer.data? = k.details document session ∨
        Navigation.Deletes (k.asked i) ∧ answer.data? = none) ∧
      result k.registry (k.start i).prepare (k.before i).2 =
        (.ok (), { k.start i with
          loaded := k.loaded document
          cache := { k.console.cache with resolved := k.loaded document }
          storage := (Snapshot.refresh k.now k.ttl answer { items := k.items i }).2 }) := by
  have hdocuments := hsteady.documents i hreaches
  have hsessions := hsteady.sessions i hreaches
  rw [asked, hcalls] at hdocuments hsessions
  -- of all that is asked, only what the preparation itself asks is needed
  have hdocuments' := hdocuments.right.left
  have hsessions' := hsessions.right.left
  rw [← k.before_state, ← k.before_root i, ← hkeeps.path] at hdocuments'
  rw [← k.before_state, ← k.before_root i, ← hkeeps.resolvedFrom, ← k.before_root i]
    at hsessions'
  obtain ⟨answer, hanswer, hresult⟩ := Navigation.prepare_of_replies (n := k.start i) rfl
    (fun _ => rfl) hdocuments' hsessions'
  have hloaded : (k.start i).cache.resolvedFrom (k.start i).clients.root document =
      k.loaded document := by
    rw [← hkeeps.resolvedFrom, ← k.before_root i]
    rfl
  rw [hloaded] at hanswer hresult
  refine ⟨answer, ?_, ?_⟩
  · rw [details, ← k.before_root i]
    exact hanswer
  · rw [hresult, ttl, ← k.before_settings i, ← hkeeps.resolved]
    rfl

/-- A request that is redirected makes one hop of the chain. -/
theorem exists_hop (hfollowed : k.IsFollowed) (hsteady : k.IsSteady document session)
    (hkeeps : k.KeepsLoaded document i) (hreaches : k.Reaches (i + 1)) :
    k.KeepsLoaded document (i + 1) ∧ ∃ ready left, k.Hop document session i ready left := by
  obtain ⟨route, page, hgate⟩ := gate_of_redirect (hreaches i i.lt_succ_self)
  obtain ⟨later, hcalls⟩ := calls_prepare hgate
  obtain ⟨answer, hanswer, hprepare⟩ := prepare_result hsteady hkeeps
    (fun j hj => hreaches j (hj.trans i.lt_succ_self)) hcalls
  obtain ⟨r, hsame, hanswering⟩ := answering_result hgate
  have hfollows := hfollowed.follows i hreaches
  rw [response, hanswering] at hfollows
  -- neither its head nor the end of the request changes where a response sends the browser
  have htarget := hsame.redirect?.symm.trans
    ((finish_redirect? ..).symm.trans hfollows.target)
  obtain ⟨hresponse, hdeparture⟩ := departure_of_redirect hgate rfl hprepare htarget
  rw [hresponse] at hsame
  have hbefore : (k.before (i + 1)).1 =
      (result k.registry (k.answering i) (k.before i).2).2 := rfl
  rw [hanswering] at hbefore
  generalize result k.registry (visit route page (k.start i)) (k.before i).2 = v
    at hdeparture hfollows hbefore
  have hopen : (Snapshot.refresh k.now k.ttl answer { items := k.items i }).2.IsOpen :=
    (Snapshot.refresh_of_isOpen (fun _ => rfl) k.ttl answer).2
  refine ⟨.inr ?_, _, v.navigation, ⟨answer, hanswer, ?_⟩, rfl, hopen, rfl, rfl, hdeparture, ?_⟩
  · rw [hbefore, finish_cache]
    exact hdeparture.cache_eq
  · rw [Navigation.readSession_eq rfl hopen]
    refine Navigation.reading_refresh ?_ k.now k.ttl (k.items i)
    intro hendpoint
    obtain hdetails | ⟨-, hnone⟩ := hanswer
    · rw [hdetails, details, Navigation.detailsOf, hendpoint]
      rfl
    · exact hnone
  · -- a redirect says nothing of the cookie itself, so the line that settles the session counts
    rw [items, hbefore]
    refine itemsAt_next _ _ _ _ _ r ?_ ?_ (hfollowed.ids i) ?_ hfollows.cookie
    · rw [hsame.1]
      exact (by decide : 303 < 500)
    · rw [Http.Response.SetsNoCookie, hsame.2]
      rfl
    · exact (Snapshot.refresh_tracks k.now k.ttl answer _).trans hdeparture.tracks

end Chain

end RegistryConsole
