import RegistryConsole.Proofs.Console.Admission
import RegistryConsole.Proofs.Console.Requests
import RegistryConsole.Proofs.Registry.Identifiers
import RegistryConsole.Proofs.Registry.Outcome
import RegistryConsole.Proofs.Route.SettingsPages
/-!
# What forms ask for

A form of the settings page is one request to the registry, or none where an identifier is empty or
the registry's address is none that requests can be sent to. Whatever is asked besides is only
fetched, for the settings page that is shown if the registry does not take the form.
-/
namespace RegistryConsole

open Registry Dialogue

namespace Control

/-- The call of the registry's that a form makes, but for what is sent along. -/
def form : Control String → Registry.Form
  | createAuthority => .whole .post .authorities none
  | deleteAuthority a => .one .delete .authorities a Authorities.noId none
  | createKey a => .below .post a "keys" none
  | deleteKey a k => .oneBelow .delete a "keys" k Keys.noId none
  | createApiKey a => .below .post a "api-keys" none
  | deleteApiKey a k => .oneBelow .delete a "api-keys" k ApiKeys.noId none

/-- The request that a form makes: there is none where a name is empty, and none if requests cannot
be sent to its address. -/
def request? (c : Control String) (clients : Clients) (body : Option Json) :
    Option Registry.Request :=
  if c.form.isRefused then none
  else
    ((Url.ofString? (c.form.address clients.registryUrl)).filter Client.isSendable).map fun url =>
      { method := c.form.method, url, cookie := clients.cookie, body }

theorem of_request? {c : Control String} {clients : Clients} {body : Option Json}
    {call : Registry.Request} (h : c.request? clients body = some call) :
    call.method = c.form.method ∧
      Url.ofString? (c.form.address clients.registryUrl) = some call.url ∧ call.body = body := by
  rw [request?] at h
  split at h
  · cases h
  · obtain ⟨url, hurl, rfl⟩ := Option.map_eq_some_iff.mp h
    exact ⟨rfl, (Option.filter_eq_some_iff.mp hurl).1, rfl⟩

theorem form_group (c : Control String) : c.form.group = .authorities := by
  cases c <;> rfl

theorem form_ids (c : Control String) : c.form.ids = c.names := by
  cases c <;> rfl

private theorem target?_path (c : Control String) (clients : Clients) :
    clients.authorities.target? c.form.path =
      (Url.ofString? (c.form.address clients.registryUrl)).filter Client.isSendable := by
  rw [Client.target?, ← c.form.urlFor_path, form_group]
  rfl

theorem request?_isSome_iff {clients : Clients} (hreach : (clients.authorities.target? "/").isSome)
    (c : Control String) (body : Option Json) :
    (c.request? clients body).isSome ↔ "" ∉ c.names := by
  rw [request?, ← c.form_ids, ← Form.isRefused_iff]
  split
  next hrefused => exact ⟨nofun, fun hnames => absurd hrefused hnames⟩
  next hrefused =>
    refine ⟨fun _ => hrefused, fun _ => ?_⟩
    rw [Option.isSome_map, ← target?_path]
    refine Client.target?_of_leadsTo hreach fun scheme host h => ?_
    rw [Url.ofString?, Client.urlFor_slash _ rfl] at h
    rw [Url.ofString?, Client.urlFor_slash _ c.form.path_toList]
    exact Url.ofChars?_below h _

private theorem call_puts {α : Type} {c : Control String} (clients : Clients) (call : Client.Call)
    (decode : Json.Decoder α) {body : Option Json} {path : String} {refused : Bool}
    {reason : String} (hmethod : call.method = c.form.method) (hbody : call.body = .ok body)
    (hpath : c.form.path = path) (hrefused : c.form.isRefused = refused) :
    Puts (if refused then Client.refuse reason
      else call.dialogue clients.authorities path decode) decode (c.request? clients body) := by
  have hcall := (call.puts clients.authorities path decode).guard refused reason
  have hrequest : call.request? clients.authorities path =
      ((Url.ofString? (c.form.address clients.registryUrl)).filter Client.isSendable).map
        fun url => { method := c.form.method, url, cookie := clients.cookie, body } := by
    have hcookie : clients.authorities.cookie = clients.cookie := rfl
    rw [Client.Call.request?, hbody, ← hpath, target?_path, hmethod, hcookie, Except.toOption,
      Option.bind_some]
  rw [hrequest, ← hrefused] at hcall
  rw [← hrefused]
  exact hcall

open RegistryConsole.Registry.Form

section Operations

variable (clients : Clients)

theorem createAuthority_puts (a : NewAuthority) :
    (Authorities.create clients.authorities a).Puts Authority.decode
      (createAuthority.request? clients (some (Keys.mapKeys Keys.toSnake a.toJson))) := by
  have hsent : createAuthority.form.isRefused = false := rfl
  have hdialogue : Authorities.create clients.authorities a =
      if createAuthority.form.isRefused then
        Client.refuse ""
      else
        Client.Call.dialogue clients.authorities "/" Authority.decode (.post (.ok a.toJson)) := by
    rw [hsent, if_neg Bool.false_ne_true]
    rfl
  rw [hdialogue]
  exact call_puts clients (.post (.ok a.toJson)) Authority.decode rfl rfl rfl rfl

theorem createKey_puts (authority : String) (k : NewKey) :
    (Keys.create clients.authorities authority k).Puts Key.decode
      ((createKey authority).request? clients (some (Keys.mapKeys Keys.toSnake k.toJson))) :=
  call_puts clients (.post (.ok k.toJson)) Key.decode rfl rfl (below_path ..)
    (below_isRefused ..)

theorem createApiKey_puts (authority : String) (k : NewApiKey) :
    (ApiKeys.create clients.authorities authority k).Puts ApiKey.decode
      ((createApiKey authority).request? clients (some (Keys.mapKeys Keys.toSnake k.toJson))) :=
  call_puts clients (.post (.ok k.toJson)) ApiKey.decode rfl rfl (below_path ..)
    (below_isRefused ..)

theorem deleteAuthority_puts (authority : String) :
    (Authorities.delete clients.authorities authority).Puts Json.decodeBool
      ((deleteAuthority authority).request? clients none) :=
  call_puts clients .delete Json.decodeBool rfl rfl (one_path ..) (one_isRefused ..)

theorem deleteKey_puts (authority key : String) :
    (Keys.delete clients.authorities authority key).Puts Json.decodeBool
      ((deleteKey authority key).request? clients none) :=
  call_puts clients .delete Json.decodeBool rfl rfl (oneBelow_path ..)
    (oneBelow_isRefused ..)

theorem deleteApiKey_puts (authority key : String) :
    (ApiKeys.delete clients.authorities authority key).Puts Json.decodeBool
      ((deleteApiKey authority key).request? clients none) :=
  call_puts clients .delete Json.decodeBool rfl rfl (oneBelow_path ..)
    (oneBelow_isRefused ..)

end Operations

end Control

namespace Pages

variable {σ α : Type} {registry : Responder σ} {s : σ} {n : Navigation} {userName : String}

theorem settings_result (huser : n.userName = .ok userName) (status : Nat)
    (errors : List FieldError) (notice : String) :
    result registry (settings n status errors notice) s =
      .ok (page status (Page.SettingsPage.markup {
        companyName := n.runtime.companyName
        userName
        authorities := (result registry (Authorities.getAll n.clients.authorities) s).toView
        errors
        notice })) := by
  rw [settings, huser]
  exact result_bind registry (Authorities.getAll n.clients.authorities) _ s

theorem settings_shows (huser : n.userName = .ok userName) (status : Nat)
    (errors : List FieldError) (notice : String) (registry : Responder σ) (s : σ) :
    ∃ shown : Page.SettingsPage,
      result registry (settings n status errors notice) s = .ok (page status shown.markup) ∧
        shown.errors = errors ∧ shown.authorities =
          (result registry (Authorities.getAll n.clients.authorities) s).toView := by
  refine ⟨_, settings_result huser status errors notice, rfl, ?_⟩
  dsimp only

theorem settings_fetches (n : Navigation) (status : Nat) (errors : List FieldError)
    (notice : String) (registry : Responder σ) (s : σ) :
    ∀ call ∈ calls registry (settings n status errors notice) s, call.method = .get := by
  intro call hcall
  exact ((settings_asks n status errors notice).calls registry s call hcall).1

/-- What becomes of a form that is put to the registry. If the registry tells what it has made of
it, the browser goes back to the settings page, else it is shown that page with a message. -/
structure Settles (registry : Responder σ) (s : σ) (d : Dialogue Reply)
    (request? : Option Registry.Request) (told : Bool) : Prop where
  calls : ∃ later, Dialogue.calls registry d s = request?.toList ++ later ∧
    ∀ call ∈ later, call.method = .get
  status : (Console.responseOf (result registry d s)).status = if told then 303 else 502
  redirect? : (Console.responseOf (result registry d s)).redirect? =
    if told then some "/settings" else none

theorem settled_settles {d : Dialogue (Envelope α)} {decode : Json.Decoder α}
    {request? : Option Registry.Request} (h : d.Puts decode request?)
    (huser : n.userName = .ok userName) (registry : Responder σ) (s : σ) :
    Settles registry s (d.bind (settle n)) request?
      (request?.any fun call => ((registry s call).1.told? decode).isSome) := by
  have htold : (request?.any fun call => ((registry s call).1.told? decode).isSome) =
      (result registry d s).data?.isSome := by
    rw [h.data? registry s]
    cases request? <;> rfl
  rw [htold]
  constructor
  case calls =>
    refine ⟨_, by rw [calls_bind, h.calls], ?_⟩
    intro call hcall
    exact ((settle_asks n _).calls registry _ call hcall).1
  all_goals
    rw [result_bind]
    cases result registry d s with
    | ok data => rfl
    | error message details =>
        rw [settle, settings_result huser]
        rfl

theorem submit_settles {errors : List FieldError} (herrors : errors.isEmpty = true)
    {d : Dialogue (Envelope α)} {decode : Json.Decoder α} {request? : Option Registry.Request}
    (h : d.Puts decode request?) (huser : n.userName = .ok userName) (registry : Responder σ)
    (s : σ) :
    Settles registry s (submit n errors d) request?
      (request?.any fun call => ((registry s call).1.told? decode).isSome) := by
  rw [submit, if_pos herrors]
  exact settled_settles h huser registry s

end Pages

namespace Console

variable {σ : Type} {registry : Responder σ} {s : σ} {c : Console} {now : Instant}
variable {request : Http.Request}

theorem gate_of_path {written : Control (List Char)} (hpath : request.path.toList = written.path)
    (hslash : ∀ name ∈ written.names, '/' ∉ name) (hmethod : request.method = "POST") :
    gate request = some (.of written.endpoint,
      Pages.answer written.endpoint written.arguments request) := by
  have hplace := Control.ofPath?_path hslash
  rw [← hpath] at hplace
  simp only [gate, hplace, written.methods_endpoint, hmethod, List.contains_cons,
    beq_self_eq_true, Bool.true_or, if_true]

theorem served_of_path (draws : Draws) {written : Control (List Char)}
    (hpath : request.path.toList = written.path) (hslash : ∀ name ∈ written.names, '/' ∉ name)
    (hproceeds : c.Proceeds registry s now request) :
    ∃ n userName before, Served registry s c now draws request
      (Pages.answer written.endpoint written.arguments request) n userName before := by
  have hplace := Control.ofPath?_path hslash
  rw [← hpath] at hplace
  have hmethod : request.method = "POST" := by
    obtain ⟨route, page, hfound, -⟩ := id hproceeds
    by_contra hmethod
    have hmissing : ["POST"].contains request.method = false := by
      rw [List.contains_cons, List.contains_nil, Bool.or_false, beq_eq_false_iff_ne]
      exact hmethod
    simp only [gate, hplace, written.methods_endpoint, hmissing, Bool.false_eq_true,
      if_false] at hfound
    cases hfound
  refine serve_of_proceeds draws (gate_of_path hpath hslash hmethod) written.endpoint_signedIn ?_
    hproceeds
  rw [hmethod]
  decide

end Console

end RegistryConsole
