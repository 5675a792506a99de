import RegistryConsole.Proofs.Registry.Echo
/-!
# The operations on the registry's resources

Each operation is a call of a form: a method, the segments behind the base path of its group and
the identifiers among them, and the body, if it sends one. It is refused without a request if an
identifier is empty. Otherwise it is the one request of its form, if requests can be sent to the
registry at all (`Operation.sends_one_request`).
-/
namespace RegistryConsole.Registry

open Dialogue Text

variable {σ α : Type}

/-- The resources that share a base path. -/
inductive Group where
  | authorities
  | artifacts
  deriving DecidableEq, Repr

namespace Group

def basePath : Group → String
  | authorities => authoritiesPath
  | artifacts => artifactsPath

def client (clients : Clients) : Group → Client
  | authorities => clients.authorities
  | artifacts => clients.artifacts

end Group

/-- What an operation sends, and the text it is refused with. -/
structure Form where
  method : Method
  group : Group
  /-- The identifiers among the segments. -/
  ids : List String := []
  /-- The segments behind the base path, one empty one for the group as a whole. -/
  segments : List String := [""]
  body : Option Json := none
  refusal : String := ""

namespace Form

/-- The path behind the base path. -/
def path (f : Form) : String :=
  "/" ++ "/".intercalate f.segments

/-- The address of a registry without slashes at its end. -/
def baseOf (registryUrl : String) : List Char :=
  (registryUrl.toList.reverse.dropWhile (· = '/')).reverse

def address (f : Form) (registryUrl : String) : String :=
  String.ofList (baseOf registryUrl) ++ f.group.basePath ++ f.path

/-- The request to an address, the body in snake case. -/
def request (f : Form) (cookie : Option String) (url : Url) : Request :=
  { method := f.method, url, cookie, body := f.body.map (Keys.mapKeys Keys.toSnake) }

def isRefused (f : Form) : Bool :=
  f.ids.any (·.isEmpty)

/-- On all the resources of a group. -/
def whole (method : Method) (group : Group) (body : Option Json) : Form :=
  { method, group, body }

def one (method : Method) (group : Group) (id refusal : String) (body : Option Json) :
    Form :=
  { method, group, ids := [id], segments := [id], body, refusal }

/-- On all the items of a kind below an authority. -/
def below (method : Method) (authorityId items : String) (body : Option Json) : Form :=
  { method, group := .authorities, ids := [authorityId], segments := [authorityId, items], body,
    refusal := Authorities.noId }

def oneBelow (method : Method) (authorityId items id refusal : String)
    (body : Option Json) : Form :=
  { method, group := .authorities, ids := [authorityId, id],
    segments := [authorityId, items, id], body, refusal }

end Form

/-- The operations on authorities, signing keys, API keys and artifacts, by what they result in. -/
inductive Operation : Type → Type where
  | allAuthorities : Operation (List Authority)
  | authority (id : String) : Operation Authority
  | createAuthority (authority : NewAuthority) : Operation Authority
  | updateAuthority (authority : Authority) : Operation Authority
  | deleteAuthority (id : String) : Operation Bool
  | allKeys (authorityId : String) : Operation (List Key)
  | key (authorityId id : String) : Operation Key
  | createKey (authorityId : String) (key : NewKey) : Operation Key
  | updateKey (authorityId : String) (key : Key) : Operation Key
  | deleteKey (authorityId id : String) : Operation Bool
  | allApiKeys (authorityId : String) : Operation (List ApiKey)
  | apiKey (authorityId id : String) : Operation ApiKey
  | createApiKey (authorityId : String) (key : NewApiKey) : Operation ApiKey
  | updateApiKey (authorityId : String) (key : ApiKey) : Operation ApiKey
  | deleteApiKey (authorityId id : String) : Operation Bool
  | allArtifacts : Operation (List Artifact)
  | artifact (slug : Slug) : Operation Artifact
  | allVersions (slug : Slug) : Operation (List String)
  | createArtifact (artifact : NewArtifact) : Operation Artifact
  | updateArtifact (artifact : Artifact) : Operation Artifact
  | deleteArtifact (id : String) : Operation Bool

namespace Operation

def dialogue (clients : Clients) : Operation α → Dialogue (Envelope α)
  | allAuthorities => Authorities.getAll clients.authorities
  | authority id => Authorities.getOne clients.authorities id
  | createAuthority a => Authorities.create clients.authorities a
  | updateAuthority a => Authorities.update clients.authorities a
  | deleteAuthority id => Authorities.delete clients.authorities id
  | allKeys authorityId => Keys.getAll clients.authorities authorityId
  | key authorityId id => Keys.getOne clients.authorities authorityId id
  | createKey authorityId k => Keys.create clients.authorities authorityId k
  | updateKey authorityId k => Keys.update clients.authorities authorityId k
  | deleteKey authorityId id => Keys.delete clients.authorities authorityId id
  | allApiKeys authorityId => ApiKeys.getAll clients.authorities authorityId
  | apiKey authorityId id => ApiKeys.getOne clients.authorities authorityId id
  | createApiKey authorityId k => ApiKeys.create clients.authorities authorityId k
  | updateApiKey authorityId k => ApiKeys.update clients.authorities authorityId k
  | deleteApiKey authorityId id => ApiKeys.delete clients.authorities authorityId id
  | allArtifacts => Artifacts.getAll clients.artifacts
  | artifact slug => Artifacts.getOne clients.artifacts slug
  | allVersions slug => Artifacts.getAllVersions clients.artifacts slug
  | createArtifact a => Artifacts.create clients.artifacts a
  | updateArtifact a => Artifacts.update clients.artifacts a
  | deleteArtifact id => Artifacts.delete clients.artifacts id

def form : Operation α → Form
  | allAuthorities => .whole .get .authorities none
  | authority id => .one .get .authorities id Authorities.noId none
  | createAuthority a => .whole .post .authorities (some a.toJson)
  | updateAuthority a => .one .patch .authorities a.id Authorities.noId (some a.toJson)
  | deleteAuthority id => .one .delete .authorities id Authorities.noId none
  | allKeys authorityId => .below .get authorityId "keys" none
  | key authorityId id => .oneBelow .get authorityId "keys" id Keys.noId none
  | createKey authorityId k => .below .post authorityId "keys" (some k.toJson)
  | updateKey authorityId k =>
    .oneBelow .patch authorityId "keys" k.id Keys.noId (some k.toJson)
  | deleteKey authorityId id => .oneBelow .delete authorityId "keys" id Keys.noId none
  | allApiKeys authorityId => .below .get authorityId "api-keys" none
  | apiKey authorityId id => .oneBelow .get authorityId "api-keys" id ApiKeys.noId none
  | createApiKey authorityId k => .below .post authorityId "api-keys" (some k.toJson)
  | updateApiKey authorityId k =>
    .oneBelow .patch authorityId "api-keys" k.id ApiKeys.noId (some k.toJson)
  | deleteApiKey authorityId id => .oneBelow .delete authorityId "api-keys" id ApiKeys.noId none
  | allArtifacts => .whole .get .artifacts none
  | artifact slug =>
    { method := .get, group := .artifacts, ids := slug.segments, segments := slug.segments,
      refusal := Artifacts.noSlug }
  | allVersions slug =>
    { method := .get, group := .artifacts, ids := slug.segments,
      segments := slug.segments ++ ["version"], refusal := Artifacts.noSlug }
  | createArtifact a => .whole .post .artifacts (some a.toJson)
  | updateArtifact a => .one .patch .artifacts a.id Artifacts.noId (some a.toJson)
  | deleteArtifact id => .one .delete .artifacts id Artifacts.noId none

end Operation

namespace Form

/-- A dialogue is the refusal of a form or the call that it makes, and the data of the call may be
put into another shape. -/
inductive Describes (f : Form) (clients : Clients) : Dialogue (Envelope α) → Prop where
  | refused (h : f.isRefused = true) : Describes f clients (Client.refuse f.refusal)
  | sent (h : f.isRefused = false) {path : String} (hpath : f.path = path)
    (decode : Json.Decoder α) :
    Describes f clients ((f.group.client clients).send f.method path
      (f.body.map (Keys.mapKeys Keys.toSnake)) decode)
  | mapped {β : Type} (h : f.isRefused = false) {path : String} (hpath : f.path = path)
    (decode : Json.Decoder β) (g : β → α) :
    Describes f clients (((f.group.client clients).send f.method path
      (f.body.map (Keys.mapKeys Keys.toSnake)) decode).map (.map g))

variable {f : Form} {clients : Clients} {d : Dialogue (Envelope α)}

theorem Describes.guard {refused : Bool} (hrefused : f.isRefused = refused)
    (h : f.isRefused = false → f.Describes clients d) :
    f.Describes clients (if refused then Client.refuse f.refusal else d) := by
  cases refused with
  | true => exact .refused hrefused
  | false => exact h hrefused

theorem one_isRefused (method : Method) (group : Group) (id refusal : String)
    (body : Option Json) : (one method group id refusal body).isRefused = id.isEmpty :=
  Bool.or_false _

theorem one_path (method : Method) (group : Group) (id refusal : String) (body : Option Json) :
    (one method group id refusal body).path = "/" ++ id := by
  rw [path, one, String.intercalate_singleton]

theorem below_isRefused (method : Method) (authorityId items : String)
    (body : Option Json) : (below method authorityId items body).isRefused = authorityId.isEmpty :=
  Bool.or_false _

theorem below_path (method : Method) (authorityId items : String) (body : Option Json) :
    (below method authorityId items body).path = "/" ++ authorityId ++ ("/" ++ items) := by
  simp [path, below, String.append_assoc]

theorem oneBelow_isRefused (method : Method) (authorityId items id refusal : String)
    (body : Option Json) : (oneBelow method authorityId items id refusal body).isRefused =
      (authorityId.isEmpty || id.isEmpty) := by
  simp [isRefused, oneBelow]

theorem oneBelow_path (method : Method) (authorityId items id refusal : String)
    (body : Option Json) : (oneBelow method authorityId items id refusal body).path =
      "/" ++ authorityId ++ ("/" ++ items) ++ "/" ++ id := by
  simp [path, oneBelow, String.append_assoc]

end Form

open RegistryConsole.Registry.Form in
theorem Operation.describes (op : Operation α) (clients : Clients) :
    op.form.Describes clients (op.dialogue clients) := by
  cases op <;> simp only [form, dialogue, Authorities.getAll, Authorities.getOne,
    Authorities.create, Authorities.update, Authorities.delete, Keys.getAll, Keys.getOne,
    Keys.create, Keys.update, Keys.delete, ApiKeys.getAll, ApiKeys.getOne, ApiKeys.create,
    ApiKeys.update, ApiKeys.delete, Artifacts.getAll, Artifacts.getOne, Artifacts.getAllVersions,
    Artifacts.create, Artifacts.update, Artifacts.delete, Client.get, Client.post, Client.patch,
    Client.delete, Client.sendBody]
  case allAuthorities | createAuthority => exact .sent rfl rfl _
  case authority | updateAuthority | deleteAuthority | deleteArtifact =>
    exact .guard (one_isRefused ..) fun h => .sent h (one_path ..) _
  case allKeys | createKey | allApiKeys | createApiKey =>
    exact .guard (below_isRefused ..) fun h => .sent h (below_path ..) _
  case key | updateKey | deleteKey | apiKey | updateApiKey | deleteApiKey =>
    exact .guard (oneBelow_isRefused ..) fun h => .sent h (oneBelow_path ..) _
  case allArtifacts | createArtifact => exact .mapped rfl rfl _ _
  case updateArtifact => exact .guard (one_isRefused ..) fun h => .mapped h (one_path ..) _ _
  case artifact => exact .guard rfl fun h => .mapped h rfl _ _
  case allVersions slug =>
    have hpath : (allVersions slug).form.path = slug.path ++ "/version" := by
      cases hprovider : slug.provider <;>
        simp [Form.path, form, Slug.path, Slug.joined, Slug.segments, hprovider,
          String.append_assoc]
    exact .guard rfl fun h => .mapped h hpath _ _

theorem Client.calls_send (c : Client) (method : Method) (path : String) (body : Option Json)
    (decode : Json.Decoder α) (registry : Responder σ) (s : σ) :
    calls registry (c.send method path body decode) s =
      ((c.target? path).map fun url => { method, url, cookie := c.cookie, body }).toList := by
  have h := c.send_cases method path body decode
  generalize c.send method path body decode = d at h ⊢
  obtain ⟨htarget, e, rfl⟩ | ⟨url, htarget, -, rfl⟩ := h
  · rw [htarget]
    rfl
  · rw [htarget]
    rfl

theorem Form.urlFor_path (f : Form) (clients : Clients) :
    (f.group.client clients).urlFor f.path = f.address clients.registryUrl := by
  have hrelative : ¬ (startsWith "http://".toList f.path.toList ||
      startsWith "https://".toList f.path.toList) = true := by
    rw [path, String.toList_append]
    exact Bool.false_ne_true
  rw [Client.urlFor, if_neg hrelative, address]
  cases f.group <;> rfl

theorem Form.isRefused_iff (f : Form) : f.isRefused = true ↔ "" ∈ f.ids := by
  simp only [isRefused, List.any_eq_true, String.isEmpty_iff, exists_eq_right]

namespace Operation

/-- Where the address of an operation leads, if requests can be sent there. -/
def target? (op : Operation α) (clients : Clients) : Option Url :=
  (op.form.group.client clients).target? op.form.path

theorem target?_eq (op : Operation α) (clients : Clients) :
    op.target? clients =
      (Url.ofString? (op.form.address clients.registryUrl)).filter Client.isSendable := by
  rw [target?, Client.target?, Form.urlFor_path]

theorem calls_of_not_isRefused (op : Operation α) (clients : Clients) (registry : Responder σ)
    (s : σ) (h : op.form.isRefused = false) :
    calls registry (op.dialogue clients) s =
      ((op.target? clients).map (op.form.request clients.cookie)).toList := by
  have hcookie : (op.form.group.client clients).cookie = clients.cookie := by
    cases op.form.group <;> rfl
  have hdescribes := op.describes clients
  generalize op.dialogue clients = d at hdescribes ⊢
  cases hdescribes with
  | refused hrefused =>
      rw [h] at hrefused
      cases hrefused
  | sent _ hpath decode =>
      rw [Client.calls_send, target?, hpath, hcookie]
      rfl
  | mapped _ hpath decode g =>
      rw [calls_map, Client.calls_send, target?, hpath, hcookie]
      rfl

theorem dialogue_of_isRefused (op : Operation α) (clients : Clients)
    (h : op.form.isRefused = true) : op.dialogue clients = Client.refuse op.form.refusal := by
  have hdescribes := op.describes clients
  generalize op.dialogue clients = d at hdescribes ⊢
  cases hdescribes with
  | refused => rfl
  | sent hsent | mapped hsent =>
      rw [h] at hsent
      cases hsent

theorem target?_isSome (op : Operation α) {clients : Clients}
    (h : (clients.root.target? "/").isSome) : (op.target? clients).isSome := by
  have hpath : op.form.path.toList.head? = some '/' := by
    rw [Form.path, String.toList_append]
    rfl
  rw [target?]
  cases op.form.group with
  | authorities => exact Client.target?_under h rfl hpath
  | artifacts => exact Client.target?_under h rfl hpath

/-- A registry that never answers. -/
def unanswered : Responder Unit := fun s _ => (.nothing, s)

end Operation

end RegistryConsole.Registry
