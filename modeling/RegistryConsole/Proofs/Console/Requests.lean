import RegistryConsole.Proofs.Console.Discretion
import RegistryConsole.Proofs.Registry.Operations
/-!
# What is asked behind the configuration

Once its guard has asked for the configuration, a visit asks for the session that the configuration
announces, for its removal and for resources, and for nothing else.
-/
namespace RegistryConsole

open Registry Dialogue

namespace Registry

variable {α : Type}

/-- A request by the method of a form to its address. -/
def Form.Sends (f : Form) (clients : Clients) (call : Request) : Prop :=
  call.method = f.method ∧ Url.ofString? (f.address clients.registryUrl) = some call.url

theorem Operation.meets (op : Operation α) (clients : Clients) :
    (op.dialogue clients).Meets (op.form.Sends clients) fun _ => True := by
  have haddress := op.form.urlFor_path clients
  have hsent {β : Type} {path : String} (hpath : op.form.path = path) (decode : Json.Decoder β) :
      ((op.form.group.client clients).send op.form.method path
        (op.form.body.map (Keys.mapKeys Keys.toSnake)) decode).Meets (op.form.Sends clients)
        fun _ => True := by
    rw [← hpath]
    refine (Client.send_meets ..).mono ?_ fun _ h => h
    rintro call ⟨⟨hmethod, hurl⟩, -⟩
    rw [haddress] at hurl
    exact ⟨hmethod, hurl⟩
  have hdescribes := op.describes clients
  generalize op.dialogue clients = d at hdescribes ⊢
  cases hdescribes with
  | refused => exact .done True.intro
  | sent _ hpath decode => exact hsent hpath decode
  | mapped _ hpath decode g => exact (hsent hpath decode).map fun _ h => h

end Registry

/-- A request for a resource of the registry. -/
def Navigation.AsksResource (n : Navigation) (call : Registry.Request) : Prop :=
  ∃ f : Form, f.Sends n.clients call

theorem Registry.Operation.asksResource {α : Type} (op : Operation α) (n : Navigation) :
    (op.dialogue n.clients).Meets n.AsksResource fun _ => True :=
  (op.meets n.clients).mono (fun _ h => ⟨_, h⟩) fun _ h => h

namespace Pages

variable {α : Type} {n : Navigation}

theorem settings_asks (n : Navigation) (status : Nat) (errors : List FieldError)
    (notice : String) :
    (settings n status errors notice).Meets (Operation.allAuthorities.form.Sends n.clients)
      fun _ => True := by
  rw [settings]
  cases n.userName with
  | error e => exact .done True.intro
  | ok userName =>
      exact (Operation.meets .allAuthorities n.clients).bind fun _ _ => .done True.intro

theorem settle_asks (n : Navigation) (answer : Envelope α) :
    (settle n answer).Meets (Operation.allAuthorities.form.Sends n.clients) fun _ => True := by
  cases answer with
  | ok data => exact .done True.intro
  | error message details => exact settings_asks n 502 [] message

private theorem settings_asksResource (n : Navigation) (status : Nat) (errors : List FieldError)
    (notice : String) :
    (settings n status errors notice).Meets n.AsksResource fun _ => True :=
  (settings_asks n status errors notice).mono (fun _ h => ⟨_, h⟩) fun _ h => h

private theorem settled_asksResource (op : Operation α) (n : Navigation) :
    ((op.dialogue n.clients).bind (settle n)).Meets n.AsksResource fun _ => True := by
  refine (op.asksResource n).bind ?_
  intro answer _
  exact (settle_asks n answer).mono (fun _ h => ⟨_, h⟩) fun _ h => h

private theorem submit_asksResource (errors : List FieldError) (op : Operation α)
    (n : Navigation) :
    (submit n errors (op.dialogue n.clients)).Meets n.AsksResource fun _ => True := by
  rw [submit]
  split
  · exact settled_asksResource op n
  · exact settings_asksResource n 422 errors ""

private theorem withForm_asksResource {ρ : Type} {fields : List (Json.RecordField ρ)}
    {defaults : ρ} {request : Http.Request} {next : ρ → Dialogue Reply}
    (h : ∀ form, (next form).Meets n.AsksResource fun _ => True) :
    (withForm fields defaults request next).Meets n.AsksResource fun _ => True := by
  rw [withForm]
  cases formOf fields defaults request with
  | ok form => exact h form
  | error e => exact .done True.intro

private theorem withArguments_asksResource {arguments : Route.Arguments}
    {next : (String → Option String) → Dialogue Reply}
    (h : ∀ argument, (next argument).Meets n.AsksResource fun _ => True) :
    (withArguments arguments next).Meets n.AsksResource fun _ => True := by
  rw [withArguments]
  cases decodeArguments arguments with
  | ok texts => exact h _
  | error name => exact .done True.intro

private theorem dashboard_asksResource (n : Navigation) :
    (dashboard n).Meets n.AsksResource fun _ => True := by
  have hartifacts : (Artifacts.getAll n.clients.artifacts).Meets n.AsksResource fun _ => True :=
    Operation.allArtifacts.asksResource n
  have hauthorities : (Authorities.getAll n.clients.authorities).Meets n.AsksResource
      fun _ => True :=
    Operation.allAuthorities.asksResource n
  refine Meets.bind hartifacts ?_
  intro artifacts _
  refine Meets.bind hauthorities ?_
  intro authorities _
  exact .done True.intro

private theorem artifact_asksResource (n : Navigation) (slug : Slug) (version : Option String) :
    (artifact n slug version).Meets n.AsksResource fun _ => True := by
  have hartifact : (Artifacts.getOne n.clients.artifacts slug).Meets n.AsksResource
      fun _ => True :=
    (Operation.artifact slug).asksResource n
  refine Meets.bind hartifact ?_
  intro answer _
  exact .done True.intro

theorem answer_meets (endpoint : Route.Endpoint) (arguments : Route.Arguments)
    (request : Http.Request) (n : Navigation) :
    (answer endpoint arguments request n).Meets n.AsksResource fun _ => True := by
  let authorityOf (argument : String → Option String) : String :=
    (argument Route.Endpoint.authorityId).getD ""
  cases endpoint with
  | home => exact dashboard_asksResource n
  | login | logout | forbidden => exact .done True.intro
  | settings => exact settings_asksResource n 200 [] ""
  | createAuthority =>
      rw [answer]
      exact withForm_asksResource fun form => submit_asksResource _ (.createAuthority form.toNew) n
  | deleteAuthority =>
      rw [answer]
      exact withArguments_asksResource fun argument =>
        settled_asksResource (.deleteAuthority (authorityOf argument)) n
  | createKey =>
      rw [answer]
      exact withArguments_asksResource fun argument => withForm_asksResource fun form =>
        submit_asksResource _ (.createKey (authorityOf argument) form.toNew) n
  | deleteKey =>
      rw [answer]
      exact withArguments_asksResource fun argument => settled_asksResource
        (.deleteKey (authorityOf argument) ((argument Route.Endpoint.keyId).getD "")) n
  | createApiKey =>
      rw [answer]
      exact withArguments_asksResource fun argument => withForm_asksResource fun form =>
        submit_asksResource _ (.createApiKey (authorityOf argument) form.toNew) n
  | deleteApiKey =>
      rw [answer]
      exact withArguments_asksResource fun argument => settled_asksResource
        (.deleteApiKey (authorityOf argument) ((argument Route.Endpoint.apiKeyId).getD "")) n
  | module | moduleVersion | provider | providerVersion =>
      rw [answer]
      exact withArguments_asksResource fun argument => artifact_asksResource n _ _

end Pages

/-- A request for the session that the configuration announces, or for its removal. -/
def Navigation.AsksSession (n : Navigation) (call : Registry.Request) : Prop :=
  n.clients.root.Sends .get n.runtime.sessionEndpoint call ∨
    n.clients.root.Sends .delete n.runtime.clearEndpoint call

theorem Condition.check_meets {n : Navigation} (hsource : n.source = .announced) {c : Condition}
    (h : c ≠ .loadRuntime) :
    (c.check n).Meets n.AsksSession fun r => ∃ storage, r.2 = { n with storage := storage } := by
  cases c with
  | loadRuntime => exact absurd rfl h
  | refreshSession =>
      refine (n.refreshSession_meets.mono (fun _ h => .inl h.2) fun _ h => h).map ?_
      exact fun _ hr => hr
  | isAuthenticated expected => exact .done ⟨n.storage, rfl⟩
  | isAuthorized refusedTo => exact .done ⟨n.storage, rfl⟩
  | logOut =>
      have hclear : n.clearSession.Meets n.AsksSession
          fun r => ∃ storage, r.2 = { n with storage := storage } := by
        cases hsession : n.hasSession with
        | false =>
            rw [Navigation.clearSession, hsession, if_neg Bool.false_ne_true]
            exact .done ⟨n.storage, rfl⟩
        | true =>
            rw [Navigation.clearSession_eq hsource hsession]
            exact ((Client.delete_meets ..).mono (fun _ h => .inr h) fun _ h => h).map
              fun _ _ => ⟨_, rfl⟩
      exact hclear.map fun _ hr => hr

theorem Guard.run_meets (fallback : String) {conditions : List Condition}
    (h : .loadRuntime ∉ conditions) {n : Navigation} (hsource : n.source = .announced) :
    (Guard.run fallback (conditions.map Condition.precondition) n).Meets n.AsksSession
      fun r => ∃ storage, r.2 = { n with storage := storage } := by
  induction conditions generalizing n with
  | nil => exact .done ⟨n.storage, rfl⟩
  | cons c rest ih =>
      rw [List.mem_cons, not_or] at h
      rw [List.map_cons, Guard.run_precondition]
      refine (Condition.check_meets hsource (Ne.symm h.1)).bind ?_
      rintro ⟨verdict, n'⟩ ⟨storage, hstorage⟩
      cases verdict with
      | error e => exact .done ⟨storage, hstorage⟩
      | ok verdict =>
          cases verdict with
          | fail => exact .done ⟨storage, hstorage⟩
          | pass =>
              obtain rfl : n' = { n with storage := storage } := hstorage
              exact (ih h.2 (n := { n with storage := storage }) hsource).mono (fun _ h => h)
                fun _ ⟨storage, h⟩ => ⟨storage, h⟩

namespace Console

variable {request : Http.Request} {route : Route} {page : Navigation → Dialogue Pages.Reply}

/-- All of a visit behind its configuration asks for the session and for resources, and leaves the
configuration as it is. -/
theorem attend_meets (hgate : gate request = some (route, page)) {n : Navigation}
    (hsource : n.source = .announced) :
    (attend route page n).Meets (fun call => n.AsksSession call ∨ n.AsksResource call)
      fun v => ∃ storage, v.navigation = { n with storage := storage } := by
  obtain ⟨name, own, fallback, hroute, hown⟩ := loadsFirst_of_gate hgate
  have hconditions : .loadRuntime ∉ route.conditions.tail := by
    rw [hroute]
    simpa [Route.make, Condition.base] using hown
  have hpage (n : Navigation) : (page n).Meets n.AsksResource fun _ => True := by
    obtain ⟨-, -, rfl⟩ | ⟨endpoint, arguments, -, -, rfl⟩ := gate_cases hgate
    · exact .done True.intro
    · exact Pages.answer_meets endpoint arguments request n
  refine ((Guard.run_meets route.fallback hconditions hsource).mono (fun _ h => .inl h)
    fun _ h => h).bind ?_
  rintro ⟨decision, n'⟩ ⟨storage, hstorage⟩
  obtain rfl : n' = { n with storage := storage } := hstorage
  cases decision with
  | error e => exact .done ⟨storage, rfl⟩
  | ok outcome =>
      cases outcome with
      | redirect target => exact .done ⟨storage, rfl⟩
      | proceed =>
          refine ((hpage _).mono (fun _ h => .inr h) fun _ h => h).map ?_
          exact fun _ _ => ⟨storage, rfl⟩

end Console

end RegistryConsole
