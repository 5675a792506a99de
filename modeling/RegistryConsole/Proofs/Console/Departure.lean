import RegistryConsole.Proofs.Console.Pages
/-!
# Departures

A response sends the browser elsewhere for one of five reasons. Which ones there can be depends on
the endpoint and on what can be read of the session once it was renewed; all but the log-out leave
the prepared navigation as it is.
-/
namespace RegistryConsole.Console

open Registry Dialogue Route

/-- Why a request to an endpoint is sent to a target, given its prepared navigation and the one it
leaves behind. -/
inductive Departure (endpoint : Option Endpoint) (ready : Navigation) :
    Navigation → String → Prop where
  | signIn (hread : ready.readSession = .ok none) (hendpoint : endpoint ≠ some .login) :
      Departure endpoint ready ready loginPath
  | signedIn {session : Session} (hread : ready.readSession = .ok (some session))
      (hendpoint : endpoint = some .login) : Departure endpoint ready ready homePath
  | refused {session : Session} (hread : ready.readSession = .ok (some session))
      (hendpoint : endpoint ∉ [some .login, some .forbidden]) :
      Departure endpoint ready ready forbiddenPath
  | settled {session : Session} (hread : ready.readSession = .ok (some session))
      (hposted : endpoint.any Endpoint.isPosted = true) :
      Departure endpoint ready ready settingsPath
  | loggedOut {session : Session} (hread : ready.readSession = .ok (some session))
      (hendpoint : endpoint = some .logout) (answer : Envelope Bool) :
      Departure endpoint ready
        { ready with storage := (Snapshot.clear answer ready.storage).2 } loginPath

theorem Departure.cache_eq {endpoint : Option Endpoint} {ready left : Navigation} {target : String}
    (h : Departure endpoint ready left target) : left.cache = ready.cache := by
  cases h <;> rfl

theorem Departure.tracks {endpoint : Option Endpoint} {ready left : Navigation} {target : String}
    (h : Departure endpoint ready left target) : ready.storage.Tracks left.storage := by
  cases h with
  | loggedOut _ _ answer => exact Snapshot.clear_tracks answer ready.storage
  | _ => exact .refl ready.storage

variable {n : Navigation} {fallback target : String}

private theorem admission_redirect (h : n.admission fallback = .ok (.redirect target)) :
    (n.readSession = .ok none ∧ target = fallback) ∨
      (∃ session, n.readSession = .ok (some session)) ∧ target = forbiddenPath := by
  rw [Navigation.admission] at h
  split at h
  · cases h
  next hread =>
    cases h
    exact .inl ⟨hread, rfl⟩
  next session hread =>
    refine .inr ⟨⟨session, hread⟩, ?_⟩
    split at h
    · cases h
    · cases h
      rfl

private theorem admission_proceed (h : n.admission fallback = .ok .proceed) :
    ∃ session, n.readSession = .ok (some session) := by
  rw [Navigation.admission] at h
  split at h
  · cases h
  · cases h
  next session hread => exact ⟨session, hread⟩

variable {σ : Type} {registry : Responder σ} {s : σ} {request : Http.Request} {route : Route}
variable {page : Navigation → Dialogue Pages.Reply} {ready : Navigation}

private theorem visit_redirect_of_quiet {own : List Condition} {name : String}
    {decide : Navigation → Except ConsoleError Outcome}
    (hquiet : ∀ n, Guard.run fallback (own.map Condition.precondition) n = .done (decide n, n))
    (hprepare : result registry n.prepare s = (.ok (), ready))
    (h : (result registry (visit (.make name own fallback) page n) s).response.redirect? =
      some target) :
    let v := result registry (visit (.make name own fallback) page n) s
    v.navigation = ready ∧
      (decide ready = .ok (.redirect target) ∧ v.response = .redirect target ∨
        decide ready = .ok .proceed ∧
          ∃ s', v.response = responseOf (result registry (page ready) s')) := by
  rw [visit_eq, evaluate_of_quiet hquiet, map_bind, result_bind, hprepare] at h ⊢
  simp only [Except.mapError, Except.bind] at h ⊢
  cases hdecide : decide ready with
  | error e =>
      rw [hdecide] at h
      cases h.symm.trans (Pages.stays_error e)
  | ok outcome =>
      rw [hdecide] at h
      cases outcome with
      | proceed =>
          rw [conclude, result_map]
          exact ⟨rfl, .inr ⟨rfl, _, rfl⟩⟩
      | redirect t =>
          cases h
          exact ⟨rfl, .inl ⟨rfl, rfl⟩⟩

private theorem visit_redirect_of_isAuthenticated {expected : Bool} {name : String}
    (hpage : ∀ n, (page n).Meets (fun _ => True) Pages.Stays)
    (hprepare : result registry n.prepare s = (.ok (), ready))
    (h : (result registry (visit (.make name [.isAuthenticated expected] fallback) page n)
      s).response.redirect? = some target) :
    let v := result registry (visit (.make name [.isAuthenticated expected] fallback) page n) s
    v.response = .redirect target ∧ v.navigation = ready ∧ target = fallback ∧
      ∃ found, ready.readSession = .ok found ∧ found.isSome ≠ expected := by
  obtain ⟨hleft, ⟨hdecide, hresponse⟩ | ⟨-, s', hresponse⟩⟩ :=
    visit_redirect_of_quiet (Guard.run_isAuthenticated fallback expected) hprepare h
  · refine ⟨hresponse, hleft, ?_⟩
    cases hread : ready.readSession with
    | error e =>
        rw [hread] at hdecide
        cases hdecide
    | ok found =>
        rw [hread] at hdecide
        simp only [Except.mapError, Except.map, Except.ok.injEq] at hdecide
        split at hdecide
        · cases hdecide
        next hfound =>
          cases hdecide
          exact ⟨rfl, found, rfl, hfound⟩
  · rw [hresponse] at h
    cases h.symm.trans ((hpage ready).result registry s')

private theorem departure_signedIn {endpoint : Endpoint} {arguments : Arguments}
    (hendpoint : endpoint ∉ [.login, .logout, .forbidden])
    (hprepare : result registry n.prepare s = (.ok (), ready))
    (h : (result registry (visit (.of endpoint) (Pages.answer endpoint arguments request) n)
      s).response.redirect? = some target) :
    let v := result registry (visit (.of endpoint) (Pages.answer endpoint arguments request) n) s
    v.response = .redirect target ∧ Departure (some endpoint) ready v.navigation target := by
  obtain ⟨name, hname⟩ := of_eq_signedIn hendpoint
  simp only [List.mem_cons, List.not_mem_nil, or_false, not_or] at hendpoint
  rw [hname] at h ⊢
  obtain ⟨hleft, hdecision⟩ := visit_redirect_of_quiet (Guard.run_signedIn loginPath) hprepare h
  dsimp only at hleft hdecision ⊢
  rw [hleft]
  obtain ⟨hredirect, hresponse⟩ | ⟨hproceed, s', hresponse⟩ := hdecision
  · refine ⟨hresponse, ?_⟩
    obtain ⟨hread, rfl⟩ | ⟨⟨session, hread⟩, rfl⟩ := admission_redirect hredirect
    · exact .signIn hread (by simp [hendpoint.1])
    · exact .refused hread (by simp [hendpoint.1, hendpoint.2.2])
  · obtain ⟨session, hread⟩ := admission_proceed hproceed
    rw [hresponse] at h ⊢
    cases hposted : endpoint.isPosted with
    | false =>
        cases h.symm.trans ((Pages.answer_meets_of_fetched arguments request ready hposted
          hendpoint.2.1).result registry s')
    | true =>
        obtain hstays | hsettles :=
          (Pages.answer_meets_of_posted arguments request ready hposted).result registry s'
        · cases h.symm.trans hstays
        · rw [hsettles] at h ⊢
          cases h
          exact ⟨rfl, .settled hread hposted⟩

private theorem departure_logout {page : Navigation → Dialogue Pages.Reply}
    (hsource : ready.source = .announced)
    (hprepare : result registry n.prepare s = (.ok (), ready))
    (h : (result registry (visit (.of .logout) page n) s).response.redirect? = some target) :
    let v := result registry (visit (.of .logout) page n) s
    v.response = .redirect target ∧ Departure (some .logout) ready v.navigation target := by
  rw [Route.of, visit_eq, evaluate_make, bind_assoc, result_bind, hprepare] at h ⊢
  simp only [Guard.run_logOut] at h ⊢
  cases hread : ready.readSession with
  | error e =>
      rw [hread] at h
      cases h.symm.trans (Pages.stays_error _)
  | ok found =>
      rw [hread] at h
      cases found with
      | none =>
          cases h
          exact ⟨rfl, .signIn hread (by decide)⟩
      | some session =>
          have hsession := Navigation.hasSession_of_readSession hread
          simp only [map_bind, result_bind] at h ⊢
          obtain ⟨answer, hclear⟩ := Navigation.clearSession_result hsource hsession registry
            (endState registry n.prepare s)
          rw [hclear] at h ⊢
          cases hresult : (Snapshot.clear answer ready.storage).1 with
          | error e =>
              rw [hresult] at h
              cases h.symm.trans (Pages.stays_error _)
          | ok done =>
              rw [hresult] at h
              cases h
              exact ⟨rfl, .loggedOut hread rfl answer⟩

private theorem departure_login {arguments : Arguments}
    (hprepare : result registry n.prepare s = (.ok (), ready))
    (h : (result registry (visit (.of .login) (Pages.answer .login arguments request) n)
      s).response.redirect? = some target) :
    let v := result registry (visit (.of .login) (Pages.answer .login arguments request) n) s
    v.response = .redirect target ∧ Departure (some .login) ready v.navigation target := by
  obtain ⟨hresponse, hleft, rfl, found, hread, hfound⟩ := visit_redirect_of_isAuthenticated
    (fun n => Pages.answer_meets_of_fetched arguments request n rfl (by decide)) hprepare h
  rw [Route.of]
  dsimp only at hleft ⊢
  rw [hleft]
  cases found with
  | none => exact absurd rfl hfound
  | some session => exact ⟨hresponse, .signedIn hread rfl⟩

private theorem departure_anyone {name : String} {endpoint : Option Endpoint}
    (hendpoint : endpoint ≠ some .login)
    (hpage : ∀ n, (page n).Meets (fun _ => True) Pages.Stays)
    (hprepare : result registry n.prepare s = (.ok (), ready))
    (h : (result registry (visit (.make name [.isAuthenticated true] loginPath) page n)
      s).response.redirect? = some target) :
    let v := result registry (visit (.make name [.isAuthenticated true] loginPath) page n) s
    v.response = .redirect target ∧ Departure endpoint ready v.navigation target := by
  obtain ⟨hresponse, hleft, rfl, found, hread, hfound⟩ :=
    visit_redirect_of_isAuthenticated hpage hprepare h
  dsimp only at hleft ⊢
  rw [hleft]
  cases found with
  | none => exact ⟨hresponse, .signIn hread hendpoint⟩
  | some session => exact absurd rfl hfound

/-- Every redirect is a departure, and the response says nothing else. -/
theorem departure_of_redirect (hgate : gate request = some (route, page))
    (hsource : ready.source = .announced)
    (hprepare : result registry n.prepare s = (.ok (), ready))
    (h : (result registry (visit route page n) s).response.redirect? = some target) :
    let v := result registry (visit route page n) s
    v.response = .redirect target ∧
      Departure request.endpoint? ready v.navigation target := by
  obtain ⟨hendpoint, rfl, rfl⟩ | ⟨endpoint, arguments, hendpoint, rfl, rfl⟩ := gate_cases hgate
  · rw [hendpoint]
    exact departure_anyone (by decide)
      (fun n => .done (Pages.stays_page (.inr (by decide : 400 ≤ 404)) _)) hprepare h
  · rw [hendpoint]
    by_cases hdata : endpoint ∉ [.login, .logout, .forbidden]
    · exact departure_signedIn hdata hprepare h
    · simp only [List.mem_cons, List.not_mem_nil, or_false, not_not] at hdata
      rcases hdata with rfl | rfl | rfl
      · exact departure_login hprepare h
      · exact departure_logout hsource hprepare h
      · exact departure_anyone (by decide)
          (fun n => Pages.answer_meets_of_fetched arguments request n rfl (by decide)) hprepare h

end RegistryConsole.Console
