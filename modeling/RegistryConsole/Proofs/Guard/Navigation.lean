import RegistryConsole.Guard.Navigation
import RegistryConsole.Proofs.Registry.Deployment
import RegistryConsole.Proofs.Session.Snapshot
/-!
# Laws of navigations

What the steps of a guard ask the registry, and what of a navigation they may change. Without a
configuration there is no endpoint for the session, so nobody is signed in then.
-/
namespace RegistryConsole

open Registry Dialogue

@[simp] theorem RuntimeConfiguration.fallback_sessionEndpoint (defaults : RuntimeDefaults) :
    (RuntimeConfiguration.fallback defaults).sessionEndpoint = "" := by
  simp only [fallback, resolve, orDefault, ite_self]

namespace Navigation

/-- The first two steps of every guard. -/
def prepare (n : Navigation) : Dialogue (Except StorageError Unit × Navigation) :=
  n.loadRuntime.bind refreshSession

theorem loadRuntime_meets (n : Navigation) :
    n.loadRuntime.Meets (n.clients.root.Sends .get n.cache.path)
      fun n' => ∃ loaded cache, n' = { n with loaded := loaded, cache := cache } := by
  have hinit : (n.cache.init n.clients.root).Meets (n.clients.root.Sends .get n.cache.path)
      fun _ => True := by
    rw [RuntimeCache.init]
    cases n.cache.resolved with
    | some runtime => exact .done True.intro
    | none => exact (Client.get_meets _ _ RuntimeDocument.decode).map fun _ _ => True.intro
  exact hinit.map fun r _ => ⟨r.1, r.2, rfl⟩

theorem askSession_meets (n : Navigation) :
    n.askSession.Meets
      (fun r => n.source = .announced ∧ n.clients.root.Sends .get n.runtime.sessionEndpoint r)
      fun _ => True := by
  rw [askSession]
  cases hsource : n.source with
  | given answers => exact .done True.intro
  | announced =>
      exact (Client.get_meets n.clients.root n.runtime.sessionEndpoint
        SessionDetails.decode).mono (fun _ h => ⟨rfl, h⟩) fun _ h => h

theorem refreshSession_meets (n : Navigation) :
    n.refreshSession.Meets
      (fun r => n.source = .announced ∧ n.clients.root.Sends .get n.runtime.sessionEndpoint r)
      fun r => ∃ storage, r.2 = { n with storage := storage } := by
  rw [refreshSession]
  split
  · exact n.askSession_meets.map fun _ _ => ⟨_, rfl⟩
  · exact .done ⟨n.storage, rfl⟩

theorem clearSession_meets (n : Navigation) :
    n.clearSession.Meets
      (fun r => n.source = .announced ∧ n.clients.root.Sends .delete n.runtime.clearEndpoint r)
      fun _ => True := by
  rw [clearSession]
  split
  · refine Meets.map (q := fun _ => True) ?_ fun _ h => h
    rw [askClear]
    cases hsource : n.source with
    | given answers => exact .done True.intro
    | announced =>
        exact ((Client.delete_meets n.clients.root n.runtime.clearEndpoint
          Json.decodeBool).mono (fun _ h => ⟨rfl, h⟩) fun _ h => h).map fun _ h => h
  · exact .done True.intro

theorem prepare_frame {σ : Type} (registry : Responder σ) (n : Navigation) (s : σ) :
    ∃ loaded cache storage, (result registry n.prepare s).2 =
      { n with loaded := loaded, cache := cache, storage := storage } := by
  rw [prepare, result_bind]
  obtain ⟨loaded, cache, hload⟩ := n.loadRuntime_meets.result registry s
  obtain ⟨storage, hrefresh⟩ := (result registry n.loadRuntime s).refreshSession_meets.result
    registry (endState registry n.loadRuntime s)
  exact ⟨loaded, cache, storage, by rw [hrefresh, hload]⟩

/-- What the preparation comes to where the storage refuses nothing. -/
structure Prepared (n : Navigation) (r : Except StorageError Unit × Navigation) : Prop where
  passes : r.1 = .ok ()
  isOpen : r.2.storage.IsOpen
  tracks : n.storage.Tracks r.2.storage
  resolved : r.2.cache.resolved = r.2.loaded

private theorem loadRuntime_resolved (n : Navigation) : n.loadRuntime.Meets (fun _ => True)
    fun n' => n'.storage = n.storage ∧ n'.cache.resolved = n'.loaded := by
  have hinit : (n.cache.init n.clients.root).Meets (fun _ => True)
      fun r => r.2.resolved = r.1 := by
    rw [RuntimeCache.init]
    cases hresolved : n.cache.resolved with
    | some runtime => exact .done hresolved
    | none =>
        refine Meets.bind_any (fun _ => True.intro) _ ?_
        intro answer
        cases answer with
        | ok document => exact .done rfl
        | error message details => exact .done hresolved
  exact hinit.map fun _ hr => ⟨rfl, hr⟩

theorem prepare_prepared (n : Navigation) (hopen : n.storage.IsOpen) :
    n.prepare.Meets (fun _ => True) n.Prepared := by
  refine n.loadRuntime_resolved.bind ?_
  rintro n' ⟨hstorage, hresolved⟩
  rw [← hstorage] at hopen
  rw [refreshSession]
  split
  · refine Meets.bind_any (fun _ => True.intro) _ ?_
    intro answer
    have hrefresh : (Snapshot.refresh n'.now n'.ttl answer n'.storage).1 = .ok () ∧
        (Snapshot.refresh n'.now n'.ttl answer n'.storage).2.IsOpen :=
      Snapshot.refresh_of_isOpen hopen n'.ttl answer
    refine .done ⟨hrefresh.1, hrefresh.2, ?_, hresolved⟩
    rw [← hstorage]
    exact Snapshot.refresh_tracks n'.now n'.ttl answer n'.storage
  · refine .done ⟨rfl, hopen, ?_, hresolved⟩
    rw [hstorage]
    exact .refl n.storage

theorem prepare_calls {σ : Type} (registry : Responder σ) (n : Navigation) (s : σ) :
    ∀ r ∈ calls registry n.prepare s, n.clients.root.Sends .get n.cache.path r ∨
      n.clients.root.Sends .get (result registry n.prepare s).2.runtime.sessionEndpoint r := by
  intro r hmem
  rw [prepare, calls_bind, List.mem_append] at hmem
  rcases hmem with hmem | hmem
  · exact .inl (n.loadRuntime_meets.calls registry s r hmem)
  · right
    have hsends := (result registry n.loadRuntime s).refreshSession_meets.calls registry _ r hmem
    obtain ⟨loaded, cache, hload⟩ := n.loadRuntime_meets.result registry s
    obtain ⟨storage, hrefresh⟩ := (result registry n.loadRuntime s).refreshSession_meets.result
      registry (endState registry n.loadRuntime s)
    rw [prepare, result_bind, hrefresh]
    rw [hload] at hsends ⊢
    exact hsends.2

theorem hasSession_of_not_loaded {n : Navigation} (hsource : n.source = .announced)
    (h : n.loaded = none) : n.hasSession = false := by
  simp [hasSession, hsource, runtime, h]

theorem hasSession_of_readSession {n : Navigation} {session : Session}
    (h : n.readSession = .ok (some session)) : n.hasSession = true := by
  by_contra hno
  rw [readSession, if_neg hno] at h
  cases h

/-- A session that can be read comes from an available snapshot, under a configuration that was
loaded and announces an endpoint for the session. -/
theorem available_of_readSession {n : Navigation} {session : Session}
    (hsource : n.source = .announced) (h : n.readSession = .ok (some session)) :
    (∃ runtime, n.loaded = some runtime ∧ runtime.sessionEndpoint ≠ "") ∧
      Snapshot.Available n.now n.storage session := by
  rw [readSession] at h
  split at h
  next hsession =>
    refine ⟨?_, .of_load h⟩
    cases hloaded : n.loaded with
    | none =>
        rw [hasSession_of_not_loaded hsource hloaded] at hsession
        cases hsession
    | some runtime =>
        refine ⟨runtime, rfl, ?_⟩
        simpa [hasSession, hsource, Navigation.runtime, hloaded] using hsession
  next => cases h

/-- The endpoint for the session, if the configuration announces one. -/
def sessionEndpoint? (loaded : Option RuntimeConfiguration) : Option String :=
  (loaded.map (·.sessionEndpoint)).filter (· ≠ "")

/-- What can be read of the items of a browser. -/
def reading (loaded : Option RuntimeConfiguration) (now : Instant) (items : List (String × Json)) :
    Except StorageError (Option Session) :=
  if (sessionEndpoint? loaded).isSome then Snapshot.load now { items } else .ok none

/-- The details of the session that one answer at its endpoint leads to. -/
def detailsOf (root : Client) (loaded : Option RuntimeConfiguration) (session : Answer) :
    Option SessionDetails :=
  (sessionEndpoint? loaded).bind fun endpoint =>
    root.dataOf endpoint SessionDetails.decode session

/-- Whether there is a request among those of a history to delete anything. -/
def Deletes (history : List Registry.Request) : Prop :=
  ∃ call ∈ history, call.method = .delete

variable {n : Navigation}

private theorem endpoint_cases (hsource : n.source = .announced) :
    (n.hasSession = false ∧ sessionEndpoint? n.loaded = none) ∨
      n.hasSession = true ∧ sessionEndpoint? n.loaded = some n.runtime.sessionEndpoint := by
  cases hloaded : n.loaded with
  | none => exact .inl ⟨hasSession_of_not_loaded hsource hloaded, rfl⟩
  | some runtime =>
      by_cases hendpoint : runtime.sessionEndpoint = ""
      · exact .inl (by simp [hasSession, hsource, Navigation.runtime, hloaded, sessionEndpoint?,
          hendpoint])
      · exact .inr (by simp [hasSession, hsource, Navigation.runtime, hloaded, sessionEndpoint?,
          hendpoint])

theorem readSession_eq (hsource : n.source = .announced) (hopen : n.storage.IsOpen) :
    n.readSession = reading n.loaded n.now n.storage.items := by
  rw [readSession, reading]
  obtain ⟨hsession, hendpoint⟩ | ⟨hsession, hendpoint⟩ := endpoint_cases hsource
  · simp [hsession, hendpoint]
  · simp only [hsession, hendpoint, Option.isSome_some, if_true]
    exact Snapshot.load_congr hopen (fun _ => rfl) rfl

theorem reading_refresh {loaded : Option RuntimeConfiguration} {answer : Envelope SessionDetails}
    (h : sessionEndpoint? loaded = none → answer.data? = none) (now : Instant)
    (ttl : Instant.Span) (items : List (String × Json)) :
    reading loaded now (Snapshot.refresh now ttl answer { items }).2.items =
      (answer.data?.map fun details => .ok (Snapshot.sessionOf now ttl details)).getD
        (reading loaded now items) := by
  have hopen : Storage.IsOpen { items } := fun _ => rfl
  cases hendpoint : sessionEndpoint? loaded with
  | none => simp [reading, hendpoint, h hendpoint]
  | some endpoint =>
      simp only [reading, hendpoint, Option.isSome_some, if_true]
      rw [← Snapshot.load_refresh hopen]
      exact Snapshot.load_congr (fun _ => rfl)
        (Snapshot.refresh_of_isOpen hopen ttl answer).2 rfl

section Replies

variable {σ : Type} {registry : Responder σ} {s : σ} {document session : Answer}

private theorem refreshSession_of_replies {p : List Registry.Request → Prop}
    (hsource : n.source = .announced) (hopen : n.storage.IsOpen)
    (h : Replies registry s (calls registry n.refreshSession s) fun history call given =>
      ∀ endpoint, sessionEndpoint? n.loaded = some endpoint →
        n.clients.root.Sends .get endpoint call →
        given = session ∨ p history ∧ ¬ given.IsSuccess) :
    ∃ answer : Envelope SessionDetails,
      (answer.data? = detailsOf n.clients.root n.loaded session ∨ p [] ∧ answer.data? = none) ∧
      result registry n.refreshSession s =
        (.ok (), { n with storage := (Snapshot.refresh n.now n.ttl answer n.storage).2 }) := by
  rw [refreshSession] at h ⊢
  obtain ⟨hsession, hendpoint⟩ | ⟨hsession, hendpoint⟩ := endpoint_cases hsource
  · rw [if_neg (by simp [hsession]), detailsOf, hendpoint]
    exact ⟨.error "" [], .inl rfl, rfl⟩
  · rw [if_pos hsession, askSession, hsource, Clients.getSession] at h ⊢
    simp only [calls_map] at h
    simp only [result_map, detailsOf, hendpoint, Option.bind_some]
    refine ⟨_, Client.data?_get_of_replies (h.mono fun _ _ _ hgiven => hgiven _ hendpoint), ?_⟩
    rw [(Snapshot.refresh_of_isOpen hopen n.ttl _).1]

/-- The navigation once the document was asked for. -/
def loadedFrom (n : Navigation) (document : Answer) : Navigation :=
  { n with
    loaded := n.cache.resolvedFrom n.clients.root document
    cache := n.cache.filledFrom n.clients.root document }

theorem loadRuntime_of_replies (h : Replies registry s (calls registry n.loadRuntime s)
    fun _ call given => n.clients.root.Sends .get n.cache.path call → given = document) :
    result registry n.loadRuntime s = n.loadedFrom document := by
  rw [loadRuntime, calls_map] at h
  rw [loadRuntime, result_map, RuntimeCache.init_of_replies h]
  rfl

theorem refreshSession_of_untold (hsource : n.source = .announced)
    (h : Replies registry s (calls registry n.refreshSession s) fun _ call given =>
      ∀ endpoint, sessionEndpoint? n.loaded = some endpoint →
        n.clients.root.Sends .get endpoint call → given.told? SessionDetails.decode = none) :
    result registry n.refreshSession s = (.ok (), n) := by
  rw [refreshSession] at h ⊢
  obtain ⟨hsession, -⟩ | ⟨hsession, hendpoint⟩ := endpoint_cases hsource
  · rw [if_neg (by simp [hsession])]
    rfl
  · have hask :
            n.askSession = n.clients.root.get n.runtime.sessionEndpoint SessionDetails.decode := by
      rw [askSession, hsource]
      rfl
    rw [if_pos hsession, hask] at h ⊢
    simp only [calls_map] at h
    have hnone := Client.data?_get_of_untold (h.mono fun _ _ _ hgiven => hgiven _ hendpoint)
    rw [result_map]
    generalize result registry (n.clients.root.get _ SessionDetails.decode) s = answer at hnone ⊢
    cases answer with
    | ok details => cases hnone
    | error message details => rfl

theorem prepare_of_failing {runtime : RuntimeConfiguration} (hsource : n.source = .announced)
    (hresolved : n.cache.resolved = some runtime)
    (h : Replies registry s (calls registry n.prepare s) fun _ call given =>
      n.clients.root.Sends .get runtime.sessionEndpoint call → ¬ given.IsSuccess) :
    result registry n.prepare s = (.ok (), { n with loaded := some runtime }) := by
  have hload : n.loadRuntime = .done { n with loaded := some runtime } := by
    rw [loadRuntime, RuntimeCache.init, hresolved]
    rfl
  rw [prepare, hload, done_bind] at h ⊢
  refine refreshSession_of_untold hsource (h.mono ?_)
  intro _ call given hgiven endpoint hendpoint hsends
  obtain ⟨hannounced, -⟩ := Option.filter_eq_some_iff.mp hendpoint
  cases hannounced
  exact Client.told?_of_not_isSuccess _ (hgiven hsends)

/-- Where the document and the session are answered alike each time, the preparation is sure to
pass. The session alone may fail, if anything was deleted before. -/
theorem prepare_of_replies {before : List Registry.Request} (hsource : n.source = .announced)
    (hopen : n.storage.IsOpen)
    (hdocument : Replies registry s (calls registry n.prepare s) fun _ call given =>
      n.clients.root.Sends .get n.cache.path call → given = document)
    (hsession : Replies registry s (calls registry n.prepare s) fun history call given =>
      ∀ endpoint,
        sessionEndpoint? (n.cache.resolvedFrom n.clients.root document) = some endpoint →
        n.clients.root.Sends .get endpoint call →
        given = session ∨ Deletes (before ++ history) ∧ ¬ given.IsSuccess) :
    ∃ answer : Envelope SessionDetails,
      let loaded := n.cache.resolvedFrom n.clients.root document
      (answer.data? = detailsOf n.clients.root loaded session ∨
        Deletes before ∧ answer.data? = none) ∧
      result registry n.prepare s = (.ok (), { n with
        loaded := loaded
        cache := { n.cache with resolved := loaded }
        storage := (Snapshot.refresh n.now n.ttl answer n.storage).2 }) := by
  rw [prepare, calls_bind] at hdocument hsession
  have hget : ∀ call ∈ calls registry n.loadRuntime s, call.method = .get :=
    fun call hmem => (n.loadRuntime_meets.calls registry s call hmem).1
  have hload := loadRuntime_of_replies hdocument.left
  have hright := hsession.right
  rw [← endState_eq_after, hload] at hright
  obtain ⟨answer, hanswer, hresult⟩ := refreshSession_of_replies (n := n.loadedFrom document)
    hsource hopen hright
  refine ⟨answer, ?_, ?_⟩
  · refine hanswer.imp_right fun ⟨hdeletes, hnone⟩ => ⟨?_, hnone⟩
    obtain ⟨call, hmem, hmethod⟩ := hdeletes
    rw [List.append_nil, List.mem_append] at hmem
    rcases hmem with hmem | hmem
    · exact ⟨call, hmem, hmethod⟩
    · rw [hget call hmem] at hmethod
      cases hmethod
  · rw [prepare, result_bind, hload]
    exact hresult

end Replies

theorem clearSession_eq (hsource : n.source = .announced) (hsession : n.hasSession = true) :
    n.clearSession = (n.clients.clearSession n.runtime).map fun answer =>
      ((Snapshot.clear answer n.storage).1,
        { n with storage := (Snapshot.clear answer n.storage).2 }) := by
  have hask : n.askClear = (n.clients.clearSession n.runtime).map fun answer => (answer, n) := by
    rw [askClear, hsource]
  rw [clearSession, if_pos hsession, hask, Dialogue.map, map_bind]
  rfl

theorem clearSession_result {σ : Type} (hsource : n.source = .announced)
    (hsession : n.hasSession = true) (registry : Responder σ) (s : σ) :
    ∃ answer, result registry n.clearSession s = ((Snapshot.clear answer n.storage).1,
      { n with storage := (Snapshot.clear answer n.storage).2 }) := by
  rw [clearSession_eq hsource hsession, result_map]
  exact ⟨_, rfl⟩

theorem clearSession_cases {σ : Type} (hsource : n.source = .announced)
    (hsession : n.hasSession = true) (registry : Responder σ) (s : σ) :
    calls registry n.clearSession s = [] ∨ ∃ (call : Registry.Request) (answer : Envelope Bool),
      call.method = .delete ∧ calls registry n.clearSession s = [call] ∧
        answer = Client.receive call.url Json.decodeBool (registry s call).1 ∧
        result registry n.clearSession s = ((Snapshot.clear answer n.storage).1,
          { n with storage := (Snapshot.clear answer n.storage).2 }) := by
  rw [clearSession_eq hsource hsession, calls_map, result_map, Clients.clearSession, Client.delete]
  have h := n.clients.root.send_cases .delete n.runtime.clearEndpoint none Json.decodeBool
  generalize n.clients.root.send .delete n.runtime.clearEndpoint none Json.decodeBool = d at h ⊢
  obtain ⟨-, e, rfl⟩ | ⟨url, -, -, rfl⟩ := h
  · exact .inl rfl
  · exact .inr ⟨_, _, rfl, rfl, rfl, rfl⟩

end Navigation

end RegistryConsole
