import RegistryConsole.Proofs.Registry.Operations
import RegistryConsole.Proofs.Url.Origin
/-!
# Where the calls of a session go

The endpoints of a session are put behind the address of the registry as they are. With what
stands in front of its first slash, an endpoint goes on with the authority of that address, so a
call stays at the registry exactly if this lead leaves its origin as it is
(`SessionCall.stays_iff`). An endpoint that begins with a slash has no lead; one with an at sign in
its lead names another host.
-/
namespace RegistryConsole.Registry

open Dialogue Text

variable {σ : Type}

/-- The calls that are made for a session. -/
inductive SessionCall where
  | read
  | clear
  deriving DecidableEq, Repr

namespace SessionCall

def method : SessionCall → Method
  | read => .get
  | clear => .delete

def endpoint (runtime : RuntimeConfiguration) : SessionCall → String
  | read => runtime.sessionEndpoint
  | clear => runtime.clearEndpoint

/-- What the registry is asked for a call. -/
def requests (registry : Responder σ) (s : σ) (clients : Clients) (runtime : RuntimeConfiguration) :
    SessionCall → List Request
  | read => calls registry (clients.getSession runtime) s
  | clear => calls registry (clients.clearSession runtime) s

theorem requests_eq (call : SessionCall) (registry : Responder σ) (s : σ) (clients : Clients)
    (runtime : RuntimeConfiguration) :
    call.requests registry s clients runtime =
      ((clients.root.target? (call.endpoint runtime)).map fun url =>
        { method := call.method, url, cookie := clients.cookie, body := none }).toList := by
  have hcookie : clients.root.cookie = clients.cookie := rfl
  cases call with
  | read => rw [requests, Clients.getSession, Client.get, Client.calls_send, hcookie, endpoint,
      method]
  | clear => rw [requests, Clients.clearSession, Client.delete, Client.calls_send, hcookie,
      endpoint, method]

variable {call : SessionCall} {clients : Clients} {runtime : RuntimeConfiguration}

theorem mem_requests_iff {registry : Responder σ} {s : σ} {request : Request} :
    request ∈ call.requests registry s clients runtime ↔
      ∃ url, Url.ofString? (clients.root.urlFor (call.endpoint runtime)) = some url ∧
        Client.isSendable url = true ∧
        request = { method := call.method, url, cookie := clients.cookie, body := none } := by
  rw [requests_eq, Option.mem_toList, Option.map_eq_some_iff, Client.target?]
  simp only [Option.filter_eq_some_iff, and_assoc, eq_comm (b := request)]

end SessionCall

/-- The address of a registry that is a scheme of the web, the name of a host, with or without a
port, and any number of slashes. -/
structure IsSite (registryUrl : String) (scheme name : List Char) : Prop where
  web : scheme = "http".toList ∨ scheme = "https".toList
  named : Url.IsName name
  nonempty : name ≠ []
  spelled : ∃ slashes, registryUrl.toList =
    scheme ++ "://".toList ++ name ++ List.replicate slashes '/'

/-- A path that is no whole address of the web. -/
def IsRelative (path : String) : Prop :=
  startsWith "http://".toList path.toList = false ∧
    startsWith "https://".toList path.toList = false

namespace IsSite

variable {clients : Clients} {scheme name : List Char}

theorem exists_port (h : IsSite clients.registryUrl scheme name) :
    ∃ port, (scheme, port) ∈ Url.sendableSchemes := by
  obtain rfl | rfl := h.web
  · exact ⟨80, by decide⟩
  · exact ⟨443, by decide⟩

theorem isSlash_of_head? (h : IsSite clients.registryUrl scheme name) (t : List Char) :
    ∀ c ∈ (name ++ t).head?, Url.isSlash c = false := by
  obtain ⟨d, name', rfl⟩ := List.exists_cons_of_ne_nil h.nonempty
  intro c hc
  obtain rfl : d = c := Option.some.inj hc
  exact Url.isSlash_of_inAuthority (h.named d List.mem_cons_self).2

theorem baseOf_eq (h : IsSite clients.registryUrl scheme name) :
    Form.baseOf clients.registryUrl = scheme ++ "://".toList ++ name := by
  obtain ⟨slashes, hspelled⟩ := h.spelled
  have hslashes : ∀ c ∈ (List.replicate slashes '/').reverse, decide (c = '/') = true := by
    intro c hc
    rw [List.reverse_replicate] at hc
    exact decide_eq_true (List.eq_of_mem_replicate hc)
  have hlast : ∀ c ∈ (scheme ++ "://".toList ++ name).reverse.head?,
      decide (c = '/') = false := by
    rw [List.head?_reverse, List.getLast?_append_of_ne_nil _ h.nonempty]
    intro c hc
    have hinside := (h.named c (List.mem_of_getLast? hc)).2
    rw [decide_eq_false_iff_not]
    rintro rfl
    cases hinside
  rw [Form.baseOf, hspelled, List.reverse_append, List.dropWhile_append_of_pos hslashes,
    Url.dropWhile_eq_self_iff.mpr hlast, List.reverse_reverse]

theorem urlFor_eq (h : IsSite clients.registryUrl scheme name) {path : String}
    (hrelative : IsRelative path) :
    (clients.root.urlFor path).toList = scheme ++ "://".toList ++ name ++ path.toList := by
  have hpasted : ¬ (startsWith "http://".toList path.toList ||
      startsWith "https://".toList path.toList) = true := by
    rw [hrelative.1, hrelative.2]
    exact Bool.false_ne_true
  rw [Client.urlFor, if_neg hpasted, String.toList_append, Clients.root, Client.under_baseUrl,
    String.toList_empty, List.append_nil, ← Form.baseOf, h.baseOf_eq]

theorem origin_eq (h : IsSite clients.registryUrl scheme name) {port : Nat}
    (hport : (scheme, port) ∈ Url.sendableSchemes) (t : List Char) :
    (Url.ofChars? (scheme ++ "://".toList ++ name ++ t)).map Url.origin =
      Url.originOf? scheme port (name ++ Url.lead t) := by
  have hhead : ∀ c ∈ (Url.cleanTail (name ++ t)).head?, Url.isSlash c = false := by
    rw [Url.cleanTail_name h.named]
    exact h.isSlash_of_head? _
  rw [List.append_assoc, Url.origin_web hport hhead, Url.lead_name h.named]

theorem root_origin (h : IsSite clients.registryUrl scheme name) {port : Nat}
    (hport : (scheme, port) ∈ Url.sendableSchemes) {root : Url}
    (hroot : Url.ofString? clients.registryUrl = some root) :
    Url.originOf? scheme port name = some root.origin := by
  obtain ⟨slashes, hspelled⟩ := h.spelled
  have hlead : Url.lead (List.replicate slashes '/') = [] := by
    cases slashes with
    | zero => rfl
    | succ slashes =>
        rw [List.replicate_succ, Url.lead, Url.cleanTail_cons (by decide)]
        rfl
  have horigin := h.origin_eq hport (List.replicate slashes '/')
  rw [← hspelled, hlead, List.append_nil, ← Url.ofString?, hroot] at horigin
  exact horigin.symm

end IsSite

theorem isSendable_congr {url url' : Url} (h : url.origin = url'.origin) :
    Client.isSendable url = Client.isSendable url' := by
  have hscheme : url.scheme = url'.scheme := congrArg Url.Origin.scheme h
  have hhost : url.host = url'.host := congrArg Url.Origin.host h
  rw [Client.isSendable, hscheme, hhost, Client.isSendable]

namespace SessionCall

variable {clients : Clients} {runtime : RuntimeConfiguration} {scheme name : List Char}

theorem originOf?_request {call : SessionCall} (h : IsSite clients.registryUrl scheme name)
    {port : Nat} (hport : (scheme, port) ∈ Url.sendableSchemes)
    (hrelative : IsRelative (call.endpoint runtime)) {registry : Responder σ} {s : σ}
    {request : Request} (hrequest : request ∈ call.requests registry s clients runtime) :
    Url.originOf? scheme port (name ++ Url.lead (call.endpoint runtime).toList) =
      some request.url.origin := by
  obtain ⟨url, haddress, -, rfl⟩ := mem_requests_iff.mp hrequest
  rw [Url.ofString?, h.urlFor_eq hrelative] at haddress
  rw [← h.origin_eq hport, haddress]
  rfl

/-- A call asks only the origin of the registry. -/
def Stays (call : SessionCall) (registry : Responder σ) (s : σ) (clients : Clients)
    (runtime : RuntimeConfiguration) (root : Url) : Prop :=
  ∀ request ∈ call.requests registry s clients runtime, request.url.origin = root.origin

variable {call : SessionCall} {registry : Responder σ} {s : σ} {root : Url}

/-- The lead of an endpoint alone decides. -/
theorem stays_iff_lead (h : IsSite clients.registryUrl scheme name)
    (hrelative : IsRelative (call.endpoint runtime)) :
    call.Stays registry s clients runtime root ↔
      ∀ url, Url.ofChars? (scheme ++ "://".toList ++ name ++
          (Url.lead (call.endpoint runtime).toList ++ ['/'])) = some url →
        Client.isSendable url = true → url.origin = root.origin := by
  obtain ⟨port, hport⟩ := h.exists_port
  have hendpoint := h.origin_eq hport (call.endpoint runtime).toList
  have hlead := h.origin_eq hport (Url.lead (call.endpoint runtime).toList ++ ['/'])
  rw [Url.lead_lead, ← hendpoint] at hlead
  have haddress : Url.ofString? (clients.root.urlFor (call.endpoint runtime)) =
      Url.ofChars? (scheme ++ "://".toList ++ name ++ (call.endpoint runtime).toList) := by
    rw [Url.ofString?, h.urlFor_eq hrelative]
  constructor
  · intro hstays url hurl hsend
    rw [hurl] at hlead
    obtain ⟨url', hurl', horigin⟩ := Option.map_eq_some_iff.mp hlead.symm
    rw [← horigin]
    refine hstays _ (mem_requests_iff.mpr ⟨url', haddress.trans hurl', ?_, rfl⟩)
    rw [isSendable_congr horigin, hsend]
  · intro hall request hrequest
    obtain ⟨url, hurl, hsend, rfl⟩ := mem_requests_iff.mp hrequest
    rw [← haddress, hurl] at hlead
    obtain ⟨url', hurl', horigin⟩ := Option.map_eq_some_iff.mp hlead
    rw [← horigin]
    exact hall url' hurl' ((isSendable_congr horigin).trans hsend)

theorem stays_of_lead_nil (h : IsSite clients.registryUrl scheme name)
    (hroot : Url.ofString? clients.registryUrl = some root)
    (hrelative : IsRelative (call.endpoint runtime))
    (hlead : Url.lead (call.endpoint runtime).toList = []) :
    call.Stays registry s clients runtime root := by
  obtain ⟨port, hport⟩ := h.exists_port
  intro request hrequest
  have hrequested := originOf?_request h hport hrelative hrequest
  rw [hlead, List.append_nil, h.root_origin hport hroot] at hrequested
  exact (Option.some.inj hrequested).symm

/-- Behind an at sign, the lead names where the requests go. -/
theorem origin_of_lead_user (h : IsSite clients.registryUrl scheme name)
    (hrelative : IsRelative (call.endpoint runtime)) {user named : List Char}
    (hlead : Url.lead (call.endpoint runtime).toList = user ++ '@' :: named)
    (hnamed : '@' ∉ named) {request : Request}
    (hrequest : request ∈ call.requests registry s clients runtime) :
    ∃ url, Url.ofChars? (scheme ++ "://".toList ++ (named ++ ['/'])) = some url ∧
      url.origin = request.url.origin := by
  obtain ⟨port, hport⟩ := h.exists_port
  have hrequested := originOf?_request h hport hrelative hrequest
  have hmem {c : Char} (hc : c ∈ named) :
      c ∈ Url.lead (call.endpoint runtime).toList := by
    rw [hlead]
    exact List.mem_append_right _ (List.mem_cons_of_mem _ hc)
  have hbreaks : ∀ c ∈ named, c ∉ ['\t', '\n', '\r'] :=
    fun c hc => Url.lead_breaks _ c (hmem hc)
  have hinside : ∀ c ∈ named, Url.inAuthority c = true :=
    fun c hc => Url.lead_inAuthority _ c (hmem hc)
  rw [hlead, ← List.append_assoc, Url.originOf?_user hnamed] at hrequested
  have hhead : ∀ c ∈ (Url.cleanTail (named ++ ['/'])).head?, Url.isSlash c = false := by
    rw [Url.cleanTail_slash hbreaks]
    cases named with
    | nil =>
        rw [Url.originOf?_nil] at hrequested
        cases hrequested
    | cons d named =>
        intro c hc
        obtain rfl : d = c := Option.some.inj hc
        exact Url.isSlash_of_inAuthority (hinside d List.mem_cons_self)
  have horigin := Url.origin_web hport hhead
  rw [Url.lead_slash hbreaks hinside, hrequested] at horigin
  exact Option.map_eq_some_iff.mp horigin

/-- A session call carries the browser's cookies by the registry's scheme. It stays at the registry
exactly if the lead of its endpoint leaves the origin of the registry's address as it is. So it does
if the endpoint is empty or begins with a slash, a question mark or a hash, and otherwise a lead
with an at sign names the origin that it goes to. -/
theorem stays_iff (call : SessionCall) {clients : Clients} {runtime : RuntimeConfiguration}
    {scheme name : List Char} {root : Url} (h : IsSite clients.registryUrl scheme name)
    (hroot : Url.ofString? clients.registryUrl = some root)
    (hrelative : IsRelative (call.endpoint runtime)) (registry : Responder σ) (s : σ) :
    (∀ request ∈ call.requests registry s clients runtime,
      request.cookie = clients.cookie ∧ request.url.scheme = root.scheme) ∧
    (call.Stays registry s clients runtime root ↔
      ∀ url, Url.ofChars? (scheme ++ "://".toList ++ name ++
          (Url.lead (call.endpoint runtime).toList ++ ['/'])) = some url →
        Client.isSendable url = true → url.origin = root.origin) ∧
    ((∀ c ∈ (call.endpoint runtime).toList.head?, c ∈ ['/', '\\', '?', '#']) →
      call.Stays registry s clients runtime root) ∧
    ∀ user named, Url.lead (call.endpoint runtime).toList = user ++ '@' :: named →
      '@' ∉ named → ∀ request ∈ call.requests registry s clients runtime,
        ∃ url, Url.ofChars? (scheme ++ "://".toList ++ (named ++ ['/'])) = some url ∧
          url.origin = request.url.origin := by
  refine ⟨?_, stays_iff_lead h hrelative, ?_, ?_⟩
  · intro request hrequest
    obtain ⟨port, hport⟩ := h.exists_port
    have hscheme := Url.originOf?_scheme (originOf?_request h hport hrelative hrequest)
    have hrootScheme := Url.originOf?_scheme (h.root_origin hport hroot)
    refine ⟨?_, hscheme.trans hrootScheme.symm⟩
    obtain ⟨url, -, -, rfl⟩ := mem_requests_iff.mp hrequest
    rfl
  · exact fun hhead => stays_of_lead_nil h hroot hrelative (Url.lead_of_head? hhead)
  · exact fun user named hlead hnamed request hrequest =>
      origin_of_lead_user h hrelative hlead hnamed hrequest

/-- An endpoint with an at sign behind a slash, of a registry with a port and slashes. -/
theorem stays_iff_path :
    let clients : Clients :=
      { registryUrl := "https://registry.example:8443//", cookie := some "id=1" }
    let runtime := RuntimeConfiguration.resolve { auth := { sessionEndpoint := "/s@other" } } {}
    IsSite clients.registryUrl "https".toList "registry.example:8443".toList ∧
      IsRelative (read.endpoint runtime) ∧
      ∃ root, Url.ofString? clients.registryUrl = some root ∧
        root.origin = ⟨"https".toList, .domain "registry.example".toList, some 8443⟩ ∧
        ∃ request ∈ read.requests Operation.unanswered () clients runtime,
          request.cookie = some "id=1" ∧ request.url.origin = root.origin := by
  intro clients runtime
  have hsite : IsSite clients.registryUrl "https".toList "registry.example:8443".toList :=
    ⟨.inr rfl, by decide +kernel, List.cons_ne_nil _ _, 2, by decide⟩
  have hrelative : IsRelative (read.endpoint runtime) := by
    rw [IsRelative]
    decide +kernel
  have horigin : (Url.ofString? clients.registryUrl).map Url.origin =
      some ⟨"https".toList, .domain "registry.example".toList, some 8443⟩ := by
    decide +kernel
  have hslash : (read.endpoint runtime).toList.head? = some '/' := by decide +kernel
  obtain ⟨root, hroot, horigin⟩ := Option.map_eq_some_iff.mp horigin
  obtain ⟨hcarries, -, hstays, -⟩ := stays_iff read hsite hroot hrelative Operation.unanswered ()
  rw [hslash] at hstays
  have htarget : (clients.root.target? (read.endpoint runtime)).isSome := by decide +kernel
  obtain ⟨url, hurl⟩ := Option.isSome_iff_exists.mp htarget
  have hrequest : ⟨.get, url, clients.cookie, none⟩ ∈
      read.requests Operation.unanswered () clients runtime := by
    rw [requests_eq, hurl]
    exact List.mem_singleton_self _
  exact ⟨hsite, hrelative, root, hroot, horigin, _, hrequest, (hcarries _ hrequest).1,
    hstays (by simp) _ hrequest⟩

/-- Endpoints that take the browser's cookies to another host or another port. -/
theorem leaves_registry :
    let clients : Clients := { registryUrl := "http://registry.test", cookie := some "id=1" }
    let runtime (endpoint : String) : RuntimeConfiguration :=
      .resolve { auth := { sessionEndpoint := endpoint } } {}
    let asked (call : SessionCall) (endpoint : String) :=
      (call.requests Operation.unanswered () clients (runtime endpoint)).map fun request =>
        (request.url.origin, request.cookie)
    (Url.ofString? clients.registryUrl).map Url.origin =
        some ⟨"http".toList, .domain "registry.test".toList, none⟩ ∧
      asked read "@other.test/session" =
        [(⟨"http".toList, .domain "other.test".toList, none⟩, some "id=1")] ∧
      asked read ".other.test/session" =
        [(⟨"http".toList, .domain "registry.test.other.test".toList, none⟩, some "id=1")] ∧
      asked clear ":8080/session" =
        [(⟨"http".toList, .domain "registry.test".toList, some 8080⟩, some "id=1")] := by
  intro clients runtime asked
  have hasked (call : SessionCall) (endpoint : String) : asked call endpoint =
      ((clients.root.target? (call.endpoint (runtime endpoint))).map fun url =>
        (url.origin, clients.cookie)).toList := by
    dsimp only [asked]
    rw [requests_eq]
    cases clients.root.target? (call.endpoint (runtime endpoint)) <;> rfl
  rw [hasked, hasked, hasked]
  decide +kernel

end SessionCall

end RegistryConsole.Registry
