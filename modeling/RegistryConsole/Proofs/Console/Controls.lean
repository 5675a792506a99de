import RegistryConsole.Proofs.Console.Postings
import RegistryConsole.Proofs.Page.Forms
import RegistryConsole.Proofs.Route.ArtifactPages
/-!
# Forms act on what they are shown with

Each form of the settings page posts to a path with the identifiers of what it is shown with. What
is posted there has the registry do one thing beside fetching, at the path of the same identifiers.
-/
namespace RegistryConsole

open Registry Dialogue Text

/-- A text of letters, digits, dashes and underscores, and at least one of them. -/
structure IsIdentifier (s : String) : Prop where
  ne_empty : s ≠ ""
  chars : ∀ c ∈ s.toList, SessionCookie.isIdChar c = true

instance (s : String) : Decidable (IsIdentifier s) :=
  decidable_of_iff (s ≠ "" ∧ s.toList.all SessionCookie.isIdChar = true)
    ⟨fun h => ⟨h.1, List.all_eq_true.mp h.2⟩, fun h => ⟨h.ne_empty, List.all_eq_true.mpr h.chars⟩⟩

/-- The characters that a page or an address would not take as they are. -/
private def special : List Char :=
  Markup.signs ++ Url.separators ++ ['%', '.']

namespace IsIdentifier

variable {s : String}

theorem not_mem_special (h : IsIdentifier s) {c : Char} (hc : c ∈ s.toList) : c ∉ special := by
  have hnone : special.all (fun c => !SessionCookie.isIdChar c) = true := by decide
  intro hspecial
  have hnot := List.all_eq_true.mp hnone c hspecial
  rw [h.chars c hc] at hnot
  cases hnot

theorem not_mem (h : IsIdentifier s) {c : Char} (hc : c ∈ special) : c ∉ s.toList :=
  fun hmem => h.not_mem_special hmem hc

theorem escape_eq (h : IsIdentifier s) : Markup.escape s.toList = s.toList :=
  Markup.escape_of_not_mem fun c hc hsign => h.not_mem_special hc (by simp [special, hsign])

theorem decodeText?_eq (h : IsIdentifier s) : Percent.decodeText? s.toList = some s := by
  rw [Percent.decodeText?_of_not_mem (h.not_mem (by decide)), String.ofList_toList]

theorem isSegment (h : IsIdentifier s) : Url.IsSegment s.toList where
  plain c hc hsep := h.not_mem_special hc (by simp [special, hsep])
  unescaped := Percent.decode_of_not_mem (h.not_mem (by decide))

theorem not_dots (h : IsIdentifier s) : s.toList ≠ ['.'] ∧ s.toList ≠ ['.', '.'] := by
  have hdot : '.' ∉ s.toList := h.not_mem (by decide)
  constructor <;> intro heq <;> simp [heq] at hdot

theorem not_blank (h : IsIdentifier s) {c : Char} (hc : c ∈ s.toList) : 0x20 < c.toNat := by
  have hname : Artifact.isNameChar c = true := by
    have hid := h.chars c hc
    simp only [SessionCookie.isIdChar, Artifact.isNameChar, Bool.or_eq_true] at hid ⊢
    tauto
  rw [Artifact.isNameChar_iff] at hname
  omega

end IsIdentifier

namespace Control

variable {c : Control String}

theorem map_congr {α β : Type} {f g : α → β} {c : Control α}
    (h : ∀ name ∈ c.names, f name = g name) : c.map f = c.map g := by
  cases c <;> simp_all [names, map]

theorem map_map {α β γ : Type} (f : α → β) (g : β → γ) (c : Control α) :
    (c.map f).map g = c.map fun name => g (f name) := by
  cases c <;> rfl

theorem tag_eq (h : ∀ name ∈ c.names, IsIdentifier name) :
    c.tag = Page.postingTo (c.map String.toList).path := by
  rw [tag, map_congr fun name hname => (h name hname).escape_eq]

theorem decode_map (h : ∀ name ∈ c.names, IsIdentifier name) :
    (c.map String.toList).map Percent.decodeText? = c.map some := by
  rw [map_map, map_congr fun name hname => (h name hname).decodeText?_eq]

theorem no_slash (h : ∀ name ∈ c.names, IsIdentifier name) :
    ∀ name ∈ (c.map String.toList).names, '/' ∉ name := by
  rw [names_map, List.forall_mem_map]
  exact fun name hname => (h name hname).not_mem (by decide)

private theorem mem_segments {segment : List Char}
    (h : segment ∈ (c.map String.toList).segments) :
    segment ∈ ["settings", "authorities", "delete", "keys", "api-keys"].map String.toList ∨
      segment ∈ c.names.map String.toList := by
  cases c <;> simp_all [map, segments, names] <;> tauto

theorem path_of_target (h : ∀ name ∈ c.names, IsIdentifier name) {request : Http.Request}
    (htarget : request.target.toList = (c.map String.toList).path) :
    request.path.toList = (c.map String.toList).path := by
  rw [Http.Request.path, String.toList_ofList, htarget, path]
  refine Http.pathOf_slash fun d hd => ?_
  have hfixed : ∀ s ∈ ["settings", "authorities", "delete", "keys", "api-keys"].map String.toList,
      '?' ∉ s ∧ '#' ∉ s := by decide
  have hsegments : ∀ s ∈ (c.map String.toList).segments, '?' ∉ s ∧ '#' ∉ s := by
    intro s hs
    obtain hs | hs := mem_segments hs
    · exact hfixed s hs
    · obtain ⟨name, hname, rfl⟩ := List.mem_map.mp hs
      exact ⟨(h name hname).not_mem (by decide), (h name hname).not_mem (by decide)⟩
  obtain rfl | ⟨s, hs, hd⟩ := eq_or_mem_of_mem_join hd
  · decide
  · constructor <;> rintro rfl
    · exact (hsegments s hs).1 hd
    · exact (hsegments s hs).2 hd

theorem mem_allSegments {segment : String} (h : segment ∈ c.form.allSegments) :
    segment ∈ Operation.literals ∨ segment ∈ c.names := by
  cases c <;>
    simp_all [form, names, Form.allSegments, Form.whole, Form.one, Form.below, Form.oneBelow,
      Group.segments, Operation.literals] <;>
    tauto

theorem segments_ne_nil (c : Control String) : c.form.segments ≠ [] := by
  cases c <;> exact List.cons_ne_nil _ _

/-- Against a registry whose own address has neither a query nor a fragment, the segments of the
address that a form leads to are those of the registry, of the authorities and of what is named. -/
theorem address_segments (h : ∀ name ∈ c.names, IsIdentifier name) {clients : Clients}
    {root url : Url} (hroot : clients.root.target? "/" = some root) (hquery : root.query = none)
    (hfragment : root.fragment = none)
    (hurl : Url.ofString? (c.form.address clients.registryUrl) = some url) :
    url.query = none ∧ url.path.map Percent.decode =
      root.path.dropLast.map Percent.decode ++ c.form.allSegments.map Utf8.encode := by
  have hnoDots : ∀ s ∈ Operation.literals, s.toList ≠ ['.'] ∧ s.toList ≠ ['.', '.'] := by decide
  have hnoBlanks : Operation.literals.all (·.toList.all (0x20 < ·.toNat)) = true := by
    decide
  have hne : c.form.allSegments.map String.toList ≠ [] := by
    simp [Form.allSegments, c.segments_ne_nil]
  have hdots : ∀ s ∈ c.form.allSegments.map String.toList, s ≠ ['.'] ∧ s ≠ ['.', '.'] := by
    rw [List.forall_mem_map]
    intro segment hsegment
    obtain hliteral | hname := mem_allSegments hsegment
    · exact hnoDots segment hliteral
    · exact (h segment hname).not_dots
  obtain ⟨url', hurl', hiff⟩ :=
    Url.ofChars?_segments_iff (Clients.ofChars?_root hroot) hquery hfragment hne hdots
  rw [← c.form.address_toList _ c.segments_ne_nil] at hurl'
  obtain rfl : url = url' := Option.some.inj (hurl.symm.trans hurl')
  rw [List.map_map] at hiff
  refine hiff.mpr ⟨?_, fun d hd => ?_⟩
  · rw [List.forall_mem_map]
    intro segment hsegment
    obtain hliteral | hname := mem_allSegments hsegment
    · exact Operation.literals_isSegment segment hliteral
    · exact (h segment hname).isSegment
  · obtain rfl | ⟨s, hs, hd⟩ := eq_or_mem_of_mem_join (List.mem_of_getLast? hd)
    · decide
    · obtain ⟨segment, hsegment, rfl⟩ := List.mem_map.mp hs
      obtain hliteral | hname := mem_allSegments hsegment
      · have hnoBlank := List.all_eq_true.mp hnoBlanks segment hliteral
        exact of_decide_eq_true (List.all_eq_true.mp hnoBlank d hd)
      · exact (h segment hname).not_blank hd

/-- What a request brings beside the path of a form, and what is sent to the registry of it: a valid
form to create something, and nothing to delete. -/
inductive Fills (request : Http.Request) : Control String → Option Json → Prop where
  | deletes {c : Control String} (h : c.form.method = .delete) : Fills request c none
  | creates {p : Posting} (hbody : p.IsBodyOf request) (hvalid : p.IsValid) :
      Fills request p.control (some p.body)

/-- The requests to a registry do what a form says, and beside that they only fetch. -/
def IsDone (c : Control String) (clients : Clients) (sent : Option Json)
    (asked : List Registry.Request) : Prop :=
  ∃ before call later, asked = before ++ [call] ++ later ∧
    (∀ other ∈ before ++ later, other.method = .get) ∧
    call.method = c.form.method ∧ call.body = sent ∧
    Url.ofString? (c.form.address clients.registryUrl) = some call.url ∧
    ∀ root, clients.root.target? "/" = some root → root.query = none → root.fragment = none →
      call.url.query = none ∧ call.url.path.map Percent.decode =
        root.path.dropLast.map Percent.decode ++ c.form.allSegments.map Utf8.encode

variable {σ : Type} {n : Navigation} {userName : String}
variable {request : Http.Request} {sent : Option Json}

theorem answer_settles (h : c.Fills request sent) (hnames : ∀ name ∈ c.names, IsIdentifier name)
    (huser : n.userName = .ok userName) (registry : Responder σ) (s : σ) :
    ∃ told, Pages.Settles registry s
      (Pages.answer (c.map String.toList).endpoint (c.map String.toList).arguments request n)
      (c.request? n.clients sent) told := by
  have hdecode := decode_map hnames
  have harguments := decodeArguments_of_map hdecode
  cases h with
  | creates hbody hvalid =>
      rw [Posting.answer_eq_page hbody hdecode]
      exact ⟨_, Posting.page_settles hvalid huser registry s⟩
  | deletes hmethod =>
      rw [endpoint_map]
      cases c with
      | createAuthority | createKey a | createApiKey a => cases hmethod
      | deleteAuthority a =>
          have hsettles := Pages.settled_settles (deleteAuthority_puts n.clients a) huser registry s
          simp only [endpoint, Pages.answer, Pages.withArguments, harguments]
          exact ⟨_, hsettles⟩
      | deleteKey a k =>
          have hsettles := Pages.settled_settles (deleteKey_puts n.clients a k) huser registry s
          simp only [endpoint, Pages.answer, Pages.withArguments, harguments]
          exact ⟨_, hsettles⟩
      | deleteApiKey a k =>
          have hsettles := Pages.settled_settles (deleteApiKey_puts n.clients a k) huser registry s
          simp only [endpoint, Pages.answer, Pages.withArguments, harguments]
          exact ⟨_, hsettles⟩

end Control

/-- The identifiers of an authority and of its keys. -/
def Authority.ids (a : Authority) : List String :=
  [a.id] ++ a.keys.map (·.id) ++ a.apiKeys.map (·.id)

theorem Authority.names_of_mem_controls {a : Authority} {c : Control String}
    (h : c ∈ a.controls) : ∀ name ∈ c.names, name ∈ a.ids := by
  simp only [controls, keyControls, apiKeyControls, List.mem_append, List.mem_singleton,
    List.mem_map] at h
  obtain (rfl | ⟨k, hk, rfl⟩ | rfl) | ⟨k, hk, rfl⟩ | rfl := h <;>
    simp [Control.names, ids] <;>
    grind

namespace Console

open Page

variable {σ : Type} {registry : Responder σ} {s : σ} {c : Console} {now : Instant}
variable {request : Http.Request}

private theorem gate_settings (hpath : request.path = "/settings")
    (hmethod : request.method = "GET") :
    gate request = some (.of .settings, fun n => Pages.settings n 200 [] "") := by
  have hplace : Route.Place.ofPath? "/settings".toList = some (.guarded .settings, []) := by rfl
  have hget : (Route.Place.guarded .settings).methods.contains "GET" = true := by decide
  rw [← hmethod] at hget
  rw [← hpath] at hplace
  simp only [gate, hplace, hget, if_true]
  rfl

private theorem settings_body {list : List Authority} (draws : Draws)
    (hpath : request.path = "/settings") (hmethod : request.method = "GET")
    (hproceeds : c.Proceeds registry s now request)
    (hlist : result registry (Authorities.getAll (c.start now request).clients.authorities)
      (endState registry ((Route.of .settings).guard.evaluate (c.start now request)) s) =
        .ok list) :
    ∃ shown : SettingsPage, shown.authorities = .ok list ∧
      (result registry (c.serve now draws request) s).1.body.toList = shown.markup.chars := by
  have hgate := gate_settings hpath hmethod
  obtain ⟨n, userName, before, hserved⟩ := serve_of_proceeds draws hgate (by decide)
    (by rw [hmethod]; decide) hproceeds
  obtain ⟨headers, hresponse⟩ := hserved.response
  have hbefore := hserved.guard _ _ hgate
  rw [endState_eq_after, ← hbefore, ← hserved.clients] at hlist
  obtain ⟨shown, hpage, -, hshown⟩ := Pages.settings_shows hserved.named 200 [] "" registry
    (after registry s before)
  rw [hpage] at hresponse
  rw [hlist] at hshown
  refine ⟨shown, hshown, ?_⟩
  rw [hresponse]
  exact String.toList_ofList

private theorem reach_of_listed {client : Client} {list : List Authority}
    (h : result registry (Authorities.getAll client) s = .ok list) :
    (client.target? "/").isSome := by
  obtain ⟨-, e, hsend⟩ | ⟨url, htarget, -⟩ :=
    client.send_cases .get "/" none (Json.decodeList Authority.decode)
  · have hfailed : Authorities.getAll client = .done (Client.transportFailure e) := hsend
    rw [hfailed] at h
    cases h
  · rw [htarget]
    rfl

private theorem target?_of_registryUrl {clients clients' : Clients}
    (h : clients'.registryUrl = clients.registryUrl) :
    clients'.authorities.target? "/" = clients.authorities.target? "/" := by
  cases clients
  cases clients'
  cases h
  rfl

theorem isDone_of_posted {control : Control String} {clients : Clients} {sent : Option Json}
    (draws : Draws) (hreach : (clients.authorities.target? "/").isSome)
    (hurl : c.settings.registry.url = clients.registryUrl)
    (hnames : ∀ name ∈ control.names, IsIdentifier name)
    (htarget : request.target.toList = (control.map String.toList).path)
    (hfills : control.Fills request sent) (hproceeds : c.Proceeds registry s now request) :
    control.IsDone clients sent (calls registry (c.serve now draws request) s) := by
  obtain ⟨n, userName, before, hserved⟩ := served_of_path draws
    (Control.path_of_target hnames htarget) (Control.no_slash hnames) hproceeds
  obtain ⟨told, hsettles⟩ :=
    Control.answer_settles hfills hnames hserved.named registry (after registry s before)
  obtain ⟨later, hcalls, hfetches⟩ := hsettles.calls
  have hclients : n.clients.registryUrl = clients.registryUrl := by
    rw [hserved.clients]
    exact hurl
  have hempty : "" ∉ control.names := fun hmem => (hnames "" hmem).ne_empty rfl
  rw [← target?_of_registryUrl hclients] at hreach
  obtain ⟨call, hcall⟩ := Option.isSome_iff_exists.mp
    ((control.request?_isSome_iff hreach sent).mpr hempty)
  obtain ⟨hmethod, haddress, hbody⟩ := Control.of_request? hcall
  rw [hclients] at haddress
  refine ⟨before, call, later, ?_, ?_, hmethod, hbody, haddress, ?_⟩
  · rw [hserved.calls, hcalls, hcall, List.append_assoc]
    rfl
  · exact List.forall_mem_append.mpr ⟨hserved.fetches, hfetches⟩
  · exact fun root hroot hquery hfragment =>
      Control.address_segments hnames hroot hquery hfragment haddress

private def wordy : Authority where
  id := "keys"
  name := "<form>"
  keys := [{ id := "delete", keyId := "A1" }, { id := "keys", keyId := "B2" }]
  apiKeys := [{ id := "api-keys", name := "ci" }]

/-- A registry that lists one authority. -/
private def listing : Responder Unit := fun s call =>
  if call.url.scheme = "https".toList then
    (.response 401 [], s)
  else
    let list := Json.array ([wordy].map Authority.toJson)
    (.response 200 (Utf8.encode (Keys.mapKeys Keys.toSnake list).text), s)

private def requesting (method target : String) : Http.Request where
  method
  target
  headers := [("cookie", "id=AAAAAAAAAAAAAAAAAAAAAA")]

private def page : Http.Request :=
  requesting "GET" "/settings"

private def post : Http.Request :=
  requesting "POST" "/settings/authorities/keys/keys/delete/delete"

private theorem page_path : page.path = "/settings" := by
  decide

private theorem page_proceeds : remembering.Proceeds listing () ⟨0, 0⟩ page :=
  ⟨_, _, gate_settings page_path rfl, by decide +kernel⟩

private theorem post_target :
    post.target.toList = ((Control.deleteKey "keys" "delete").map String.toList).path := by
  decide

private theorem post_proceeds : remembering.Proceeds listing () ⟨0, 0⟩ post := by
  have hids : ∀ name ∈ (Control.deleteKey "keys" "delete").names, IsIdentifier name := by decide
  exact ⟨_, _, gate_of_path (Control.path_of_target hids post_target) (Control.no_slash hids) rfl,
    by decide +kernel⟩

private theorem listed (s : Unit) :
    result listing (Authorities.getAll (remembering.start ⟨0, 0⟩ page).clients.authorities) s =
      .ok [wordy] := by
  have htarget : ((remembering.start ⟨0, 0⟩ page).clients.authorities.target? "/").map (·.scheme) =
      some "http".toList := by decide
  obtain ⟨url, hurl, hscheme⟩ := Option.map_eq_some_iff.mp htarget
  have hportable : Json.Portable Json.maxDepth (.array ([wordy].map Authority.toJson)) :=
    .list (Authority.toJson_portable _) [wordy]
  rw [Authorities.getAll, Client.get, Client.send_of_target hurl, result_ask, result_done, listing,
    hscheme, if_neg (by decide), Client.receive_success url (by decide) (Client.spells_iff.mpr rfl),
    hportable.restored, Client.typed, Json.decodeList_map Authority.decode_toJson]

end Console

end RegistryConsole
