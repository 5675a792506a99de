import RegistryConsole.Proofs.Console.Access
import RegistryConsole.Proofs.Console.Persistence
import RegistryConsole.Proofs.Console.Traffic
/-!
# Logging out

The console drops the snapshot of a session once the registry has answered the request to delete
it. But an answer of success is taken for one only if its body is a truth value: any other body, and
none at all, counts as a refusal, and then the snapshot stays and the user with it.
-/
namespace RegistryConsole.Console

open Registry Dialogue Route SessionCookie

variable {σ : Type} {registry : Responder σ} {s : σ} {c : Console} {a : Arrival}

/-- The navigation of an arrival when its guard has prepared it. -/
def ready (registry : Responder σ) (s : σ) (c : Console) (a : Arrival) : Navigation :=
  (result registry (c.start a.now a.request).prepare s).2

def readyState (registry : Responder σ) (s : σ) (c : Console) (a : Arrival) : σ :=
  endState registry (c.start a.now a.request).prepare s

/-- A browser that is signed in asks to log out, and all that the registry is asked to delete for it
is answered with a status of success and one body. -/
structure LogsOut (registry : Responder σ) (s : σ) (c : Console) (a : Arrival)
    (body : List UInt8) : Prop where
  method : a.request.method = "GET"
  endpoint : a.request.endpoint? = some .logout
  drawn : isId a.draws.sessionId = true
  signedIn : ∃ session, (c.ready registry s a).readSession = .ok (some session)
  asked : ∃ call ∈ calls registry (c.answering a) s, call.method = .delete
  accepted : ∃ status, Envelope.isSuccess status = true ∧
    Replies registry s (calls registry (c.answering a) s) fun _ call given =>
      call.method = .delete → given = .response status body

section Visit

variable {page : Navigation → Dialogue Pages.Reply} {n ready : Navigation} {session : Session}

private theorem visit_logOut (hprepare : result registry n.prepare s = (.ok (), ready))
    (hread : ready.readSession = .ok (some session))
    (hcleared : (result registry ready.clearSession (endState registry n.prepare s)).1 = .ok ()) :
    calls registry (visit (.of .logout) page n) s = calls registry n.prepare s ++
        calls registry ready.clearSession (endState registry n.prepare s) ∧
      (result registry (visit (.of .logout) page n) s).response = .redirect loginPath ∧
      (result registry (visit (.of .logout) page n) s).navigation =
        (result registry ready.clearSession (endState registry n.prepare s)).2 := by
  rw [Route.of, visit_eq, evaluate_make, Dialogue.bind_assoc, result_bind, calls_bind, hprepare]
  simp only [Guard.run_logOut, hread, map_bind, result_bind, calls_bind, hcleared]
  exact ⟨congrArg _ (List.append_nil _), rfl, rfl⟩

end Visit

private theorem ready_prepared (registry : Responder σ) (s : σ) (c : Console) (a : Arrival) :
    (c.start a.now a.request).Prepared (result registry (c.start a.now a.request).prepare s) :=
  ((c.start a.now a.request).prepare_prepared fun _ => rfl).result registry s

private theorem ready_source (registry : Responder σ) (s : σ) (c : Console) (a : Arrival) :
    (c.ready registry s a).source = .announced := by
  obtain ⟨loaded, cache, storage, hready⟩ :=
    Navigation.prepare_frame registry (c.start a.now a.request) s
  rw [ready, hready]
  rfl

private theorem LogsOut.available (h : LogsOut registry s c a body) :
    ∃ session, (c.ready registry s a).readSession = .ok (some session) ∧
      Snapshot.Available (c.ready registry s a).now (c.ready registry s a).storage session := by
  obtain ⟨session, hread⟩ := h.signedIn
  exact ⟨session, hread,
    (Navigation.available_of_readSession (ready_source registry s c a) hread).2⟩

private theorem LogsOut.exists_visit (h : LogsOut registry s c a body) :
    calls registry (c.answering a) s = calls registry (c.start a.now a.request).prepare s ++
        calls registry (c.ready registry s a).clearSession (c.readyState registry s a) ∧
      ∃ (r : Http.Response) (v : Visit), SameHead r (.redirect loginPath) ∧
        v.navigation = (result registry (c.ready registry s a).clearSession
          (c.readyState registry s a)).2 ∧
        result registry (c.answering a) s = c.finish a.now a.draws a.request
          (Place.ofPath? a.request.path.toList) (present a.request.headers c.records) r
          (some v) := by
  obtain ⟨session, hread, havailable⟩ := h.available
  have hmethods : (Place.guarded .logout).methods.contains a.request.method = true := by
    rw [h.method]
    decide
  obtain ⟨arguments, hgate⟩ := gate_of_endpoint h.endpoint hmethods
  obtain ⟨trimmed, htrimmed, hanswering⟩ := answering_of_gate hgate
  have hprepared := ready_prepared registry s c a
  have hprepare : result registry (c.start a.now a.request).prepare s =
      (.ok (), c.ready registry s a) := Prod.ext hprepared.passes rfl
  have hcleared : (result registry (c.ready registry s a).clearSession
      (c.readyState registry s a)).1 = .ok () := by
    obtain ⟨answer, hresult⟩ := Navigation.clearSession_result (ready_source registry s c a)
      (Navigation.hasSession_of_readSession hread) registry (c.readyState registry s a)
    rw [hresult]
    exact (Snapshot.clear_of_available hprepared.isOpen havailable answer).1
  obtain ⟨hcalls, hresponse, hleft⟩ := visit_logOut hprepare hread hcleared
  refine ⟨?_, trimmed (Http.Response.redirect loginPath), _, htrimmed _, hleft, ?_⟩
  · rw [hanswering, calls_map, hcalls]
    rfl
  · rw [hanswering, result_map, ← hresponse]

private theorem LogsOut.exists_answer (h : LogsOut registry s c a body) :
    ∃ answer : Envelope Bool,
      ((∃ b, Client.payloadOf body = .bool b ∧ answer = .ok b) ∨
        (¬ ∃ b, Client.payloadOf body = .bool b) ∧ ∃ message details,
          answer = .error message details) ∧
      (result registry (c.ready registry s a).clearSession (c.readyState registry s a)).2 =
        { c.ready registry s a with
          storage := (Snapshot.clear answer (c.ready registry s a).storage).2 } := by
  obtain ⟨session, hread⟩ := h.signedIn
  obtain ⟨status, hstatus, hreplies⟩ := h.accepted
  obtain ⟨call, hcall, hdelete⟩ := h.asked
  rw [h.exists_visit.1] at hcall hreplies
  obtain hnone | ⟨asked, answer, hmethod, hone, hanswer, hresult⟩ :=
    Navigation.clearSession_cases (ready_source registry s c a)
      (Navigation.hasSession_of_readSession hread) registry (c.readyState registry s a)
  · -- what is asked before is not asked to be deleted
    rw [hnone, List.append_nil] at hcall
    obtain hget | hget := Navigation.prepare_calls registry _ s call hcall
    · cases hdelete.symm.trans hget.1
    · cases hdelete.symm.trans hget.1
  · rw [hone] at hreplies
    have hgiven := hreplies.right.head hmethod
    rw [← endState_eq_after] at hgiven
    rw [readyState, hgiven] at hanswer
    refine ⟨answer, ?_, congrArg Prod.snd hresult⟩
    rw [hanswer]
    exact Client.receive_bool asked.url hstatus

/-- What a log-out leaves: the snapshot is gone if the registry's body is a truth value, and only
then. -/
private theorem LogsOut.exists_items (h : LogsOut registry s c a body) :
    ∃ items : SessionRecord,
      ((∀ key ∈ Snapshot.keys, items.lookup key = none) ↔
        ∃ b, Client.payloadOf body = .bool b) ∧
      ∀ next : Http.Request, Http.cookieValue? name next.headers =
          kept (Http.cookieValue? name a.request.headers) (result registry (c.answering a) s).1 →
        (result registry (c.answering a) s).2.itemsAt next = items := by
  obtain ⟨session, -, havailable⟩ := h.available
  obtain ⟨-, r, v, hsame, hleft, hserved⟩ := h.exists_visit
  obtain ⟨answer, hanswer, hcleared⟩ := h.exists_answer
  have hprepared := ready_prepared registry s c a
  have hstorage : v.navigation.storage =
      (Snapshot.clear answer (c.ready registry s a).storage).2 := by
    rw [hleft, hcleared]
  have htracks : Storage.Tracks { items := c.itemsAt a.request } v.navigation.storage := by
    rw [hstorage]
    exact hprepared.tracks.trans (Snapshot.clear_tracks answer _)
  refine ⟨v.navigation.storage.items, ⟨?_, ?_⟩, ?_⟩
  · intro hgone
    obtain ⟨b, hb, -⟩ | ⟨-, message, details, rfl⟩ := hanswer
    · exact ⟨b, hb⟩
    · -- a refusal leaves the name, among the rest
      obtain ⟨text, htext⟩ := havailable.texts Snapshot.nameKey (by decide)
      have hname := hgone Snapshot.nameKey (by decide)
      rw [hstorage] at hname
      cases hname.symm.trans htext
  · intro hbool
    obtain ⟨b, -, rfl⟩ | ⟨hno, -⟩ := hanswer
    · rw [hstorage]
      exact (Snapshot.clear_ok_of_available hprepared.isOpen havailable b).2.2
    · exact absurd hbool hno
  · intro next hcookie
    rw [hserved] at hcookie ⊢
    exact itemsAt_next c a.now a.draws a.request (Place.ofPath? a.request.path.toList) r
      (by rw [hsame.1]; decide) (by rw [Http.Response.SetsNoCookie, hsame.2]; rfl) h.drawn htracks
      hcookie

private theorem LogsOut.served (h : LogsOut registry s c a body) :
    (result registry (c.answering a) s).1.redirect? = some loginPath ∧
      (result registry (c.answering a) s).2.root = c.root ∧
      (result registry (c.answering a) s).2.cache.resolved =
        some (c.ready registry s a).runtime := by
  obtain ⟨session, hread⟩ := h.signedIn
  obtain ⟨-, r, v, hsame, hleft, hserved⟩ := h.exists_visit
  obtain ⟨answer, -, hcleared⟩ := h.exists_answer
  obtain ⟨⟨runtime, hloaded, -⟩, -⟩ :=
    Navigation.available_of_readSession (ready_source registry s c a) hread
  rw [hserved]
  refine ⟨?_, ?_, ?_⟩
  · rw [finish_redirect?, hsame.redirect?]
    rfl
  · rw [Console.root, finish_settings]
    rfl
  · rw [finish_cache, Option.map_some, Option.getD_some, hleft, hcleared, Navigation.runtime,
      hloaded]
    exact (ready_prepared registry s c a).resolved.trans hloaded

theorem redirect_of_absent {runtime : RuntimeConfiguration}
    (hresolved : c.cache.resolved = some runtime)
    (habsent : ∀ key ∈ Snapshot.keys, (c.itemsAt a.request).lookup key = none)
    (hgate : (gate a.request).isSome = true) (hendpoint : a.request.endpoint? ≠ some .login)
    (hfails : Replies registry s (calls registry (c.answering a) s) fun _ call given =>
      c.root.Sends .get runtime.sessionEndpoint call → ¬ given.IsSuccess) :
    (result registry (c.answering a) s).1.redirect? = some loginPath := by
  obtain ⟨⟨route, page⟩, hgate⟩ := Option.isSome_iff_exists.mp hgate
  obtain ⟨trimmed, htrimmed, hanswering⟩ := answering_of_gate hgate
  obtain ⟨name, rest, rfl⟩ :
      ∃ name rest, route = make name (.isAuthenticated true :: rest) loginPath := by
    obtain ⟨-, rfl, -⟩ | ⟨endpoint, arguments, hfound, rfl, -⟩ := gate_cases hgate
    · exact ⟨_, _, rfl⟩
    · exact Route.of_eq_isAuthenticated fun hlogin => hendpoint (hfound.trans (congrArg _ hlogin))
  rw [hanswering, calls_map, visit_eq, evaluate_make, Dialogue.bind_assoc, calls_bind] at hfails
  have hprepare := Navigation.prepare_of_failing (n := c.start a.now a.request) rfl hresolved
    hfails.left
  have hread : { c.start a.now a.request with loaded := some runtime }.readSession = .ok none := by
    rw [Navigation.readSession]
    split
    · exact Snapshot.load_of_absent (fun _ => rfl) habsent
    · rfl
  have hresponse : (result registry (visit (make name (.isAuthenticated true :: rest) loginPath)
      page (c.start a.now a.request)) s).response = .redirect loginPath := by
    rw [visit_eq, evaluate_make, Dialogue.bind_assoc, result_bind, hprepare]
    dsimp only
    rw [Guard.run_signedOut loginPath hread]
    rfl
  rw [hanswering, result_map, finish_redirect?, (htrimmed _).redirect?, hresponse]
  rfl

/-- A log-out that the registry accepts takes effect if the registry's body is a truth value, and
only then: nothing of the snapshot is left, and the browser is sent to sign in again, while the
registry tells of no session. -/
theorem logOut_iff (h : LogsOut registry s c a body) :
    (result registry (c.answering a) s).1.redirect? = some loginPath ∧
      ∀ next : Arrival, Http.cookieValue? name next.request.headers =
          kept (Http.cookieValue? name a.request.headers) (result registry (c.answering a) s).1 →
        ((∀ key ∈ Snapshot.keys,
            ((result registry (c.answering a) s).2.itemsAt next.request).lookup key = none) ↔
          ∃ b, Client.payloadOf body = .bool b) ∧
        ((∃ b, Client.payloadOf body = .bool b) → (gate next.request).isSome = true →
          next.request.endpoint? ≠ some .login → ∀ s',
          (Replies registry s'
            (calls registry ((result registry (c.answering a) s).2.answering next) s')
            fun _ call given =>
              c.root.Sends .get (c.ready registry s a).runtime.sessionEndpoint call →
                ¬ given.IsSuccess) →
          (result registry ((result registry (c.answering a) s).2.answering next) s').1.redirect? =
            some loginPath) := by
  obtain ⟨items, hgone, hitems⟩ := h.exists_items
  obtain ⟨hredirect, hroot, hresolved⟩ := h.served
  refine ⟨hredirect, ?_⟩
  intro next hcookie
  rw [hitems next.request hcookie]
  refine ⟨hgone, ?_⟩
  intro hbool hgate hendpoint s' hfails
  refine redirect_of_absent hresolved ?_ hgate hendpoint ?_
  · rw [hitems next.request hcookie]
    exact hgone.mpr hbool
  · rw [hroot]
    exact hfails

/-- A registry that knows Ada until it is asked to delete her session, and then answers with a status
and a body of its choice. -/
private def deleting (status : Nat) (body : List UInt8) : Responder Bool := fun deleted call =>
  if call.method = .delete then (.response status body, true)
  else if call.url.path ≠ ["session".toList] then
    (.response 200 (Text.Utf8.encode
      "\x7b\"auth\":\x7b\"sessionEndpoint\":\"/session\"\x7d\x7d"), deleted)
  else if deleted then (.response 401 [], deleted)
  else (.response 200 (Text.Utf8.encode
    "\x7b\"name\":\"Ada\",\"email\":\"ada@example.org\"\x7d"), deleted)

private def unvisited : Console :=
  .ofSettings { registry := { url := "http://registry" } }

private def visitTo (target : String) (headers : Http.Headers) : Arrival where
  browser := 0
  now := ⟨0, 0⟩
  draws := ⟨"AAAAAAAAAAAAAAAAAAAAAA", "1", 0⟩
  request := { method := "GET", target, headers }

private theorem logsOut_of_answered (status : Nat) (body : List UInt8)
    (hstatus : Envelope.isSuccess status = true)
    (hsession : ((unvisited.ready (deleting status body) false
      (visitTo "/logout" [])).readSession.toOption.join).isSome = true)
    (hasked : ∃ call ∈ calls (deleting status body) (unvisited.answering (visitTo "/logout" []))
      false, call.method = .delete) :
    LogsOut (deleting status body) false unvisited (visitTo "/logout" []) body where
  method := rfl
  endpoint := by decide
  drawn := by
    change isId "AAAAAAAAAAAAAAAAAAAAAA" = true
    decide
  signedIn := by
    cases hread : (unvisited.ready (deleting status body) false
        (visitTo "/logout" [])).readSession with
    | error e =>
        rw [hread] at hsession
        cases hsession
    | ok found =>
        rw [hread] at hsession
        exact (Option.isSome_iff_exists.mp hsession).imp fun _ h => congrArg _ h
  asked := hasked
  accepted := by
    refine ⟨status, hstatus, ?_⟩
    intro history call _ hdelete
    rw [deleting, if_pos hdelete]

/-- The registry deletes Ada's session and says so. Her snapshot is gone when she comes back. -/
theorem logOut_iff_true :
    let registry := deleting 200 (Text.Utf8.encode "true")
    let served := result registry (unvisited.answering (visitTo "/logout" [])) false
    LogsOut registry false unvisited (visitTo "/logout" []) (Text.Utf8.encode "true") ∧
      served.1.redirect? = some loginPath ∧
      ∀ key ∈ Snapshot.keys, (served.2.itemsAt (visitTo "/" []).request).lookup key = none := by
  have hrun : ((unvisited.ready (deleting 200 (Text.Utf8.encode "true")) false
        (visitTo "/logout" [])).readSession.toOption.join).isSome = true ∧
      (∃ call ∈ calls (deleting 200 (Text.Utf8.encode "true"))
        (unvisited.answering (visitTo "/logout" [])) false, call.method = .delete) ∧
      Http.cookieValue? name (visitTo "/" []).request.headers =
        kept (Http.cookieValue? name (visitTo "/logout" []).request.headers)
          (result (deleting 200 (Text.Utf8.encode "true"))
            (unvisited.answering (visitTo "/logout" [])) false).1 := by
    decide +kernel
  obtain ⟨hsession, hasked, hcookie⟩ := hrun
  have hbody : Client.payloadOf (Text.Utf8.encode "true") = .bool true := by rfl
  have hlogsOut := logsOut_of_answered 200 (Text.Utf8.encode "true") (by decide) hsession hasked
  obtain ⟨hredirect, hnext⟩ := logOut_iff hlogsOut
  exact ⟨hlogsOut, hredirect, (hnext (visitTo "/" []) hcookie).1.mpr ⟨true, hbody⟩⟩

/-- The registry deletes Ada's session and has nothing to say about it. Her snapshot stays, and she
is shown the dashboard when she comes back. -/
theorem logOut_without_body :
    let registry := deleting 204 []
    let served := result registry (unvisited.answering (visitTo "/logout" [])) false
    let next := visitTo "/" [("cookie", "id=AAAAAAAAAAAAAAAAAAAAAA")]
    LogsOut registry false unvisited (visitTo "/logout" []) [] ∧
      Http.cookieValue? name next.request.headers =
        kept (Http.cookieValue? name (visitTo "/logout" []).request.headers) served.1 ∧
      (∀ key ∈ Snapshot.keys, ((served.2.itemsAt next.request).lookup key).isSome = true) ∧
      (∀ call, call.method = .get → call.url.path = ["session".toList] →
        (registry true call).1 = .response 401 []) ∧
      (result registry (served.2.answering next) true).1.status = 200 := by
  have hrun : ((unvisited.ready (deleting 204 []) false
        (visitTo "/logout" [])).readSession.toOption.join).isSome = true ∧
      (∃ call ∈ calls (deleting 204 []) (unvisited.answering (visitTo "/logout" [])) false,
        call.method = .delete) ∧
      let served := result (deleting 204 []) (unvisited.answering (visitTo "/logout" [])) false
      let next := visitTo "/" [("cookie", "id=AAAAAAAAAAAAAAAAAAAAAA")]
      Http.cookieValue? name next.request.headers =
          kept (Http.cookieValue? name (visitTo "/logout" []).request.headers) served.1 ∧
        (∀ key ∈ Snapshot.keys, ((served.2.itemsAt next.request).lookup key).isSome = true) ∧
        (result (deleting 204 []) (served.2.answering next) true).1.status = 200 := by
    decide +kernel
  obtain ⟨hsession, hasked, hcookie, hkeys, hstatus⟩ := hrun
  refine ⟨logsOut_of_answered 204 [] (by decide) hsession hasked, hcookie, hkeys, ?_, hstatus⟩
  intro call hget hpath
  rw [deleting, if_neg (by rw [hget]; decide), if_neg (not_not.mpr hpath)]
  rfl

end RegistryConsole.Console
