import RegistryConsole.Proofs.Console.Browser
import RegistryConsole.Proofs.Console.Serve
/-!
# Where pages send browsers

Pages are shown where they were asked for. Only a form that the registry accepted sends the browser
on, and then to the settings.
-/
namespace RegistryConsole.Pages

open Registry Dialogue Console

/-- The browser stays where it is. -/
def Stays (reply : Reply) : Prop :=
  (responseOf reply).redirect? = none

/-- The browser stays, or goes to the settings. -/
def StaysOrSettles (reply : Reply) : Prop :=
  Stays reply ∨ reply = .ok (.redirect Route.settingsPath)

theorem redirect?_eq_none {r : Http.Response} (h : r.status < 300 ∨ 400 ≤ r.status) :
    r.redirect? = none := by
  rw [Http.Response.redirect?, if_neg]
  simp only [Bool.and_eq_true, decide_eq_true_eq]
  omega

theorem stays_error (e : ConsoleError) : Stays (.error e) :=
  redirect?_eq_none (.inr (by decide : 400 ≤ 500))

theorem stays_of_status {r : Http.Response} (h : r.status < 300 ∨ 400 ≤ r.status) :
    Stays (.ok r) :=
  redirect?_eq_none h

theorem stays_page {status : Nat} (h : status < 300 ∨ 400 ≤ status) (markup : Markup) :
    Stays (.ok (page status markup)) :=
  stays_of_status h

private theorem stays_userName (n : Navigation) {response : String → Http.Response}
    (h : ∀ userName, (response userName).status < 300 ∨ 400 ≤ (response userName).status) :
    Stays (do
      let userName ← n.userName
      return response userName) := by
  cases n.userName with
  | error e => exact stays_error e
  | ok userName => exact stays_of_status (h userName)

variable {n : Navigation}

theorem forbidden_stays : Stays (forbidden n) :=
  stays_userName n fun _ => .inr (by decide : 400 ≤ 403)

theorem dashboard_status :
    (dashboard n).Meets (fun _ => True) fun reply => (responseOf reply).status ∈ [200, 500] := by
  rw [dashboard, bind_eq_bind]
  refine Meets.bind_any (fun _ => True.intro) _ ?_
  intro artifacts
  rw [bind_eq_bind]
  refine Meets.bind_any (fun _ => True.intro) _ ?_
  intro authorities
  refine .done ?_
  cases n.userName with
  | error e => exact (by decide : 500 ∈ [200, 500])
  | ok userName => exact (by decide : 200 ∈ [200, 500])

theorem dashboard_meets : (dashboard n).Meets (fun _ => True) Stays := by
  refine dashboard_status.mono (fun _ h => h) ?_
  intro reply hstatus
  refine redirect?_eq_none ?_
  simp only [List.mem_cons, List.not_mem_nil, or_false] at hstatus
  omega

theorem artifactContent_status (now : Instant) (version : Option String)
    (answer : Envelope Artifact) : (artifactContent now version answer).1 < 300 ∨
      400 ≤ (artifactContent now version answer).1 := by
  cases answer with
  | ok artifact =>
      rw [artifactContent]
      split
      · exact .inl (by decide : 200 < 300)
      · exact .inr (by decide : 400 ≤ 404)
  | error message details =>
      rw [artifactContent]
      dsimp only
      split
      · exact .inr (by decide : 400 ≤ 404)
      · exact .inr (by decide : 400 ≤ 502)

theorem artifact_meets (slug : Slug) (version : Option String) :
    (artifact n slug version).Meets (fun _ => True) Stays := by
  refine Meets.bind_any (fun _ => True.intro) (Artifacts.getOne n.clients.artifacts slug) ?_
  intro answer
  exact .done (stays_userName n fun _ => artifactContent_status n.now version answer)

theorem settings_meets {status : Nat} (h : status < 300 ∨ 400 ≤ status)
    (errors : List FieldError) (notice : String) :
    (settings n status errors notice).Meets (fun _ => True) Stays := by
  rw [settings]
  cases n.userName with
  | error e => exact .done (stays_error e)
  | ok userName =>
      refine Meets.bind_any (fun _ => True.intro) (Authorities.getAll n.clients.authorities) ?_
      intro answer
      exact .done (stays_of_status h)

theorem settle_meets (answer : Envelope α) :
    (settle n answer).Meets (fun _ => True) StaysOrSettles := by
  cases answer with
  | ok data => exact .done (.inr rfl)
  | error message details =>
      exact (settings_meets (.inr (by decide : 400 ≤ 502)) [] message).mono (fun _ h => h)
        fun _ h => .inl h

theorem settled_meets (call : Dialogue (Envelope α)) :
    (call.bind (settle n)).Meets (fun _ => True) StaysOrSettles :=
  Meets.bind_any (fun _ => True.intro) call settle_meets

theorem submit_meets (errors : List FieldError) (call : Dialogue (Envelope α)) :
    (submit n errors call).Meets (fun _ => True) StaysOrSettles := by
  rw [submit]
  split
  · exact settled_meets call
  · exact (settings_meets (.inr (by decide : 400 ≤ 422)) errors "").mono (fun _ h => h)
      fun _ h => .inl h

theorem withForm_meets {fields : List (Json.RecordField ρ)} {defaults : ρ}
    {request : Http.Request} {next : ρ → Dialogue Reply} {q : Reply → Prop}
    (hstays : ∀ reply, Stays reply → q reply) (h : ∀ form, (next form).Meets (fun _ => True) q) :
    (withForm fields defaults request next).Meets (fun _ => True) q := by
  rw [withForm]
  cases formOf fields defaults request with
  | ok form => exact h form
  | error e =>
      refine .done (hstays _ (stays_of_status (.inr ?_)))
      cases e with
      | wrongType => exact (by decide : 400 ≤ 415)
      | tooLong => exact (by decide : 400 ≤ 413)
      | mismatch cause => exact (by decide : 400 ≤ 422)

theorem withArguments_meets {arguments : Route.Arguments}
    {next : (String → Option String) → Dialogue Reply} {q : Reply → Prop}
    (hstays : ∀ reply, Stays reply → q reply)
    (h : ∀ argument, (next argument).Meets (fun _ => True) q) :
    (withArguments arguments next).Meets (fun _ => True) q := by
  rw [withArguments]
  cases decodeArguments arguments with
  | ok texts => exact h _
  | error name => exact .done (hstays _ (stays_of_status (.inr (by decide : 400 ≤ 400))))

section Endpoints

variable {endpoint : Route.Endpoint} (arguments : Route.Arguments) (request : Http.Request)
variable (n : Navigation)

/-- What is fetched is shown where it was asked for. The log-out is left out: nobody gets to its
page. -/
theorem answer_meets_of_fetched (h : endpoint.isPosted = false) (hlogout : endpoint ≠ .logout) :
    (answer endpoint arguments request n).Meets (fun _ => True) Stays := by
  cases endpoint with
  | home => exact dashboard_meets
  | login =>
      rw [answer, login, pure_eq_done]
      exact .done (stays_page (.inl (by decide : 200 < 300)) _)
  | logout => exact absurd rfl hlogout
  | forbidden => exact .done forbidden_stays
  | settings => exact settings_meets (.inl (by decide : 200 < 300)) [] ""
  | module | moduleVersion | provider | providerVersion =>
      rw [answer]
      exact withArguments_meets (fun _ h => h) fun argument => artifact_meets _ _
  | createAuthority | deleteAuthority | createKey | deleteKey | createApiKey | deleteApiKey =>
      cases h

theorem answer_meets_of_posted (h : endpoint.isPosted = true) :
    (answer endpoint arguments request n).Meets (fun _ => True) StaysOrSettles := by
  have hstays : ∀ reply, Stays reply → StaysOrSettles reply := fun _ => .inl
  cases endpoint with
  | createAuthority =>
      rw [answer]
      exact withForm_meets hstays fun form => submit_meets _ _
  | deleteAuthority | deleteKey | deleteApiKey =>
      rw [answer]
      exact withArguments_meets hstays fun argument => settled_meets _
  | createKey | createApiKey =>
      rw [answer]
      exact withArguments_meets hstays fun argument =>
        withForm_meets hstays fun form => submit_meets _ _
  | home | login | logout | forbidden | settings | module | moduleVersion | provider
  | providerVersion => cases h

end Endpoints

end RegistryConsole.Pages
