import RegistryConsole.Proofs.Console.Chain
/-!
# Chains of redirects end

A browser that follows redirects and keeps its cookies soon gets an answer that is none, whatever it
asked for first. The console finds the same session at each request, unless that was cleared in
between, and so each redirect brings the browser closer to a place where it stays (`Stage`).
-/
namespace RegistryConsole.Chain

open Registry Dialogue Console

variable {σ : Type} {k : Chain σ} {document session : Answer} {i : Nat}

private theorem endpoint?_of_target {request : Http.Request} {path : String}
    {endpoint : Route.Endpoint} (h : request.target = path)
    (hpath : (path, endpoint) ∈ [(Route.homePath, .home), (Route.loginPath, .login),
      (Route.forbiddenPath, .forbidden), (Route.settingsPath, Route.Endpoint.settings)]) :
    request.endpoint? = some endpoint := by
  simp only [List.mem_cons, Prod.mk.injEq, List.not_mem_nil, or_false] at hpath
  rw [Http.Request.endpoint?, Http.Request.path, h]
  obtain ⟨rfl, rfl⟩ | ⟨rfl, rfl⟩ | ⟨rfl, rfl⟩ | ⟨rfl, rfl⟩ := hpath <;> rfl

variable (k) (document session)

/-- Whatever the registry tells of the session is what was found already. -/
def Agrees (found : Option Session) : Prop :=
  ∀ details, k.details document session = some details →
    Snapshot.sessionOf k.now k.ttl details = found

/-- How many more redirects a signed-in browser meets from an endpoint on, at most. -/
def distances : List (Route.Endpoint × Nat) :=
  [(.forbidden, 0), (.home, 1), (.settings, 1), (.login, 2)]

/-- Where a chain stands when a request comes, and how many more redirects it has, at most. After
the first request the session is known for good, unless it was just cleared. -/
inductive Stage (i : Nat) : Nat → Prop where
  | first (hi : i = 0) : Stage i 3
  | cleared (hread : k.read document i = .ok none)
      (hendpoint : (k.requests i).endpoint? = some .login) : Stage i 2
  | signedOut (hread : k.read document i = .ok none) (hagrees : k.Agrees document session none)
      (hendpoint : (k.requests i).endpoint? = some .login) : Stage i 0
  | signedIn {user : Session} {endpoint : Route.Endpoint} {distance : Nat}
      (hread : k.read document i = .ok (some user))
      (hagrees : k.Agrees document session (some user))
      (hendpoint : (k.requests i).endpoint? = some endpoint)
      (hdistance : (endpoint, distance) ∈ distances) : Stage i distance

variable {k document session} {ready left : Navigation} {found : Option Session} {rank : Nat}

namespace Hop

theorem found_cases (hop : k.Hop document session i ready left)
    (hfound : ready.readSession = .ok found) :
    (∃ details, k.details document session = some details ∧
        Snapshot.sessionOf k.now k.ttl details = found) ∨
      k.read document i = .ok found ∧
        (k.details document session = none ∨ Navigation.Deletes (k.asked i)) := by
  obtain ⟨answer, hanswer, hread⟩ := hop.renewed
  rw [hfound] at hread
  obtain hdetails | ⟨hdeletes, hnone⟩ := hanswer
  · rw [hdetails] at hread
    cases hknown : k.details document session with
    | some details =>
        rw [hknown] at hread
        cases hread
        exact .inl ⟨details, rfl, rfl⟩
    | none =>
        rw [hknown] at hread
        exact .inr ⟨hread.symm, .inl rfl⟩
  · rw [hnone] at hread
    exact .inr ⟨hread.symm, .inr hdeletes⟩

theorem found_of_agrees (hop : k.Hop document session i ready left)
    (hfound : ready.readSession = .ok found) {known : Option Session}
    (hread : k.read document i = .ok known) (hagrees : k.Agrees document session known) :
    found = known := by
  obtain ⟨details, hdetails, rfl⟩ | ⟨hread', -⟩ := hop.found_cases hfound
  · exact hagrees details hdetails
  · rw [hread] at hread'
    cases hread'
    rfl

theorem agrees (hop : k.Hop document session i ready left)
    (hstage : k.Stage document session i rank) (hfound : ready.readSession = .ok found) :
    k.Agrees document session found ∨
      (k.requests i).endpoint? = some .login ∧ found = none := by
  obtain ⟨details, hdetails, rfl⟩ | ⟨hread, hknown⟩ := hop.found_cases hfound
  · left
    intro details' hdetails'
    rw [hdetails] at hdetails'
    cases hdetails'
    rfl
  · cases hstage with
    | first hi =>
        -- nothing was deleted yet, so the registry has nothing else to tell
        left
        obtain hnone | ⟨call, hmem, -⟩ := hknown
        · intro details hdetails
          rw [hnone] at hdetails
          cases hdetails
        · subst hi
          cases hmem
    | cleared hread' hendpoint =>
        right
        rw [hread] at hread'
        cases hread'
        exact ⟨hendpoint, rfl⟩
    | signedOut hread' hagrees _ =>
        left
        rw [hop.found_of_agrees hfound hread' hagrees]
        exact hagrees
    | signedIn hread' hagrees _ _ =>
        left
        rw [hop.found_of_agrees hfound hread' hagrees]
        exact hagrees

/-- While nobody is signed in, only the first request is not for the log-in. -/
theorem rank_of_none (hop : k.Hop document session i ready left)
    (hstage : k.Stage document session i rank) (hfound : ready.readSession = .ok none) :
    rank = 3 ∨ (k.requests i).endpoint? = some .login := by
  cases hstage with
  | first hi => exact .inl rfl
  | cleared _ hendpoint => exact .inr hendpoint
  | signedOut _ _ hendpoint => exact .inr hendpoint
  | signedIn hread hagrees _ _ => cases hop.found_of_agrees hfound hread hagrees

theorem rank_of_some {user : Session} (hop : k.Hop document session i ready left)
    (hstage : k.Stage document session i rank) (hfound : ready.readSession = .ok (some user)) :
    rank = 3 ∨ ∃ endpoint, (k.requests i).endpoint? = some endpoint ∧
      (endpoint, rank) ∈ distances := by
  cases hstage with
  | first hi => exact .inl rfl
  | cleared _ hendpoint => exact .inr ⟨.login, hendpoint, by decide⟩
  | signedOut hread hagrees _ => cases hop.found_of_agrees hfound hread hagrees
  | signedIn _ _ hendpoint hdistance => exact .inr ⟨_, hendpoint, hdistance⟩

theorem read_next (hop : k.Hop document session i ready left)
    (h : left.storage.items = ready.storage.items) :
    k.read document (i + 1) = ready.readSession := by
  rw [Navigation.readSession_eq hop.source hop.isOpen, read, hop.items, h, hop.now, hop.loaded]

theorem read_next_of_clear {answer : Envelope Bool} {user : Session}
    (hop : k.Hop document session i ready
      { ready with storage := (Snapshot.clear answer ready.storage).2 })
    (hfound : ready.readSession = .ok (some user)) :
    k.read document (i + 1) = .ok none ∨ k.read document (i + 1) = .ok (some user) := by
  have havailable := (Navigation.available_of_readSession hop.source hfound).2
  obtain ⟨-, hsame | ⟨hopen, hcleared⟩⟩ :=
    Snapshot.clear_of_available hop.isOpen havailable answer
  · right
    rw [hop.read_next (by dsimp only; rw [hsame]), hfound]
  · left
    rw [read, hop.items, Navigation.reading]
    split
    · rw [← hcleared k.now]
      exact Snapshot.load_congr (fun _ => rfl) hopen rfl
    · rfl

theorem stage_of_some {user : Session} (hop : k.Hop document session i ready left)
    (hstage : k.Stage document session i rank) (hfound : ready.readSession = .ok (some user))
    (hread : k.read document (i + 1) = .ok (some user)) {endpoint : Route.Endpoint}
    (hendpoint : (k.requests (i + 1)).endpoint? = some endpoint) {distance : Nat}
    (hdistance : (endpoint, distance) ∈ distances) :
    k.Stage document session (i + 1) distance := by
  obtain hagrees | ⟨-, hnone⟩ := hop.agrees hstage hfound
  · exact .signedIn hread hagrees hendpoint hdistance
  · cases hnone

theorem exists_stage (hop : k.Hop document session i ready left)
    (hstage : k.Stage document session i rank) :
    ∃ rank' < rank, k.Stage document session (i + 1) rank' := by
  have hdeparture := hop.departure
  generalize htarget : (k.requests (i + 1)).target = target at hdeparture
  cases hdeparture with
  | signIn hfound hendpoint =>
      obtain rfl := (hop.rank_of_none hstage hfound).resolve_right hendpoint
      have hagrees := (hop.agrees hstage hfound).resolve_right fun h => hendpoint h.1
      refine ⟨0, by decide, .signedOut ?_ hagrees (endpoint?_of_target htarget (by decide))⟩
      exact (hop.read_next rfl).trans hfound
  | signedIn hfound hendpoint =>
      have hnext : (k.requests (i + 1)).endpoint? = some .home :=
        endpoint?_of_target htarget (by decide)
      have hread := (hop.read_next rfl).trans hfound
      refine ⟨1, ?_, hop.stage_of_some hstage hfound hread hnext (by decide)⟩
      obtain rfl | ⟨endpoint, hendpoint', hdistance⟩ := hop.rank_of_some hstage hfound
      · decide
      · rw [hendpoint] at hendpoint'
        cases hendpoint'
        have hrank : rank = 2 := by simpa [distances] using hdistance
        omega
  | refused hfound hendpoint =>
      have hnext : (k.requests (i + 1)).endpoint? = some .forbidden :=
        endpoint?_of_target htarget (by decide)
      have hread := (hop.read_next rfl).trans hfound
      refine ⟨0, ?_, hop.stage_of_some hstage hfound hread hnext (by decide)⟩
      obtain rfl | ⟨endpoint, hendpoint', hdistance⟩ := hop.rank_of_some hstage hfound
      · decide
      · rw [hendpoint'] at hendpoint
        simp only [distances, List.mem_cons, Prod.mk.injEq, List.not_mem_nil, or_false] at hdistance
        -- nobody is refused at the two endpoints that everyone may see
        obtain ⟨rfl, -⟩ | ⟨-, rfl⟩ | ⟨-, rfl⟩ | ⟨rfl, -⟩ := hdistance
        · exact absurd (by decide) hendpoint
        · decide
        · decide
        · exact absurd (by decide) hendpoint
  | settled hfound hposted =>
      have hnext : (k.requests (i + 1)).endpoint? = some .settings :=
        endpoint?_of_target htarget (by decide)
      have hread := (hop.read_next rfl).trans hfound
      refine ⟨1, ?_, hop.stage_of_some hstage hfound hread hnext (by decide)⟩
      obtain rfl | ⟨endpoint, hendpoint', hdistance⟩ := hop.rank_of_some hstage hfound
      · decide
      · -- no redirect leads to a form, so a form can only be what was asked for first
        rw [hendpoint'] at hposted
        simp only [distances, List.mem_cons, Prod.mk.injEq, List.not_mem_nil, or_false] at hdistance
        obtain ⟨rfl, -⟩ | ⟨rfl, -⟩ | ⟨rfl, -⟩ | ⟨rfl, -⟩ := hdistance <;> cases hposted
  | loggedOut hfound hendpoint answer =>
      -- no redirect leads to the log-out either
      obtain rfl : rank = 3 := by
        obtain h | ⟨endpoint, hendpoint', hdistance⟩ := hop.rank_of_some hstage hfound
        · exact h
        · rw [hendpoint] at hendpoint'
          cases hendpoint'
          simp [distances] at hdistance
      have hnext : (k.requests (i + 1)).endpoint? = some .login :=
        endpoint?_of_target htarget (by decide)
      refine ⟨2, by decide, ?_⟩
      obtain hread | hread := hop.read_next_of_clear hfound
      · exact .cleared hread hnext
      · exact hop.stage_of_some hstage hfound hread hnext (by decide)

end Hop

/-- At every request that a chain reaches it stands at a stage, the closer to the end the later. -/
theorem exists_stage_of_reaches (hfollowed : k.IsFollowed) (hsteady : k.IsSteady document session)
    (i : Nat) (hreaches : k.Reaches i) :
    k.KeepsLoaded document i ∧ ∃ rank, k.Stage document session i rank ∧ i + rank ≤ 3 := by
  induction i with
  | zero => exact ⟨.inl rfl, 3, .first rfl, le_refl 3⟩
  | succ i ih =>
      obtain ⟨hkeeps, rank, hstage, hle⟩ := ih fun j hj => hreaches j (hj.trans i.lt_succ_self)
      obtain ⟨hkeeps', ready, left, hop⟩ := exists_hop hfollowed hsteady hkeeps hreaches
      obtain ⟨rank', hlt, hstage'⟩ := hop.exists_stage hstage
      exact ⟨hkeeps', rank', hstage', by omega⟩

private def onlyGrace : Answer :=
  .response 200 (Text.Utf8.encode
    "\x7b\"auth\":\x7b\"sessionEndpoint\":\"/session\"\x7d,\"authorizedUsers\":\"Grace\"\x7d")

private def ada : Answer :=
  .response 200 (Text.Utf8.encode "\x7b\"name\":\"Ada\",\"email\":\"ada@example.org\"\x7d")

/-- Ada, who is not admitted, wants to log out, but the registry fails to delete her session. -/
private def refusedLogOut : Chain Unit where
  registry := fun _ call => (if call.method = .delete then .response 500 []
    else if call.url.path = ["session".toList] then ada else onlyGrace, ())
  state := ()
  console := .ofSettings { registry := { url := "http://registry" } }
  now := ⟨0, 0⟩
  draws := fun _ => ⟨"AAAAAAAAAAAAAAAAAAAAAA", "", 0⟩
  requests
    | 0 => { method := "GET", target := "/logout" }
    | i + 1 =>
      { method := "GET"
        target := [Route.loginPath, Route.homePath].getD i Route.forbiddenPath
        headers := [("cookie", "id=AAAAAAAAAAAAAAAAAAAAAA")] }

private theorem refusedLogOut_responses :
    (∀ i : Fin 3, let next := refusedLogOut.requests (i + 1)
      (refusedLogOut.response i).redirect? = some next.target ∧
        Http.cookieValue? SessionCookie.name next.headers =
          SessionCookie.kept
            (Http.cookieValue? SessionCookie.name (refusedLogOut.requests i).headers)
            (refusedLogOut.response i)) ∧
      (refusedLogOut.response 3).redirect? = none := by
  decide +kernel

private theorem refusedLogOut_isFollowed : refusedLogOut.IsFollowed where
  ids := by
    intro i
    change SessionCookie.isId "AAAAAAAAAAAAAAAAAAAAAA" = true
    decide
  follows := by
    intro i hreaches
    by_cases hi : i < 3
    · obtain ⟨htarget, hcookie⟩ := refusedLogOut_responses.1 ⟨i, hi⟩
      exact ⟨rfl, htarget, hcookie⟩
    · exact absurd refusedLogOut_responses.2 (hreaches 3 (by omega))

private theorem refusedLogOut_isSteady : refusedLogOut.IsSteady onlyGrace ada where
  documents := by
    intro i _ history call _ hsends
    have hpath : (Url.ofString? (refusedLogOut.console.root.urlFor
        refusedLogOut.console.cache.path)).map Url.path ≠ some ["session".toList] := by
      decide +kernel
    rw [hsends.2] at hpath
    have hurl : call.url.path ≠ ["session".toList] := fun h => hpath (congrArg some h)
    change (if call.method = .delete then _ else if call.url.path = ["session".toList] then ada
      else onlyGrace) = onlyGrace
    rw [if_neg (by rw [hsends.1]; decide), if_neg hurl]
  sessions := by
    intro i _ history call _ endpoint hendpoint hsends
    have hknown : Navigation.sessionEndpoint? (refusedLogOut.loaded onlyGrace) =
        some "/session" := by
      decide +kernel
    rw [hknown] at hendpoint
    cases hendpoint
    have hpath : (Url.ofString? (refusedLogOut.console.root.urlFor "/session")).map Url.path =
        some ["session".toList] := by
      decide +kernel
    rw [hsends.2] at hpath
    left
    change (if call.method = .delete then _ else if call.url.path = ["session".toList] then ada
      else onlyGrace) = ada
    rw [if_neg (by rw [hsends.1]; decide), if_pos (Option.some.inj hpath)]

end RegistryConsole.Chain
