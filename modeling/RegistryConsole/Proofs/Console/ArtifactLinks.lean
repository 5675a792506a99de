import Mathlib.Data.List.Nodup
import RegistryConsole.Proofs.Console.Admission
import RegistryConsole.Proofs.Registry.Echo
import RegistryConsole.Proofs.Route.ArtifactPages
/-!
# Where the links of artifacts lead

The dashboard links an artifact to the page of its latest version, and that page has links to all
versions. A link is followed through the pattern of its path, the guard of its route, the registry's
answer for the slug and the lookup of the version (`Console.artifact_links_lead`).
-/
namespace RegistryConsole

open Registry Dialogue Text Keys

variable {σ : Type}

namespace Registry

/-- The registry can be reached and tells of an artifact by its slug, whatever letters are capital
in it. -/
structure Serves (registry : Responder σ) (clients : Clients) (a : Artifact) : Prop where
  reachable : (clients.root.target? "/").isSome
  tells : ∀ s request (slug : Slug), slug.segments.map toLower = a.slug.segments.map toLower →
    clients.artifacts.Sends .get slug.path request → request.cookie = clients.cookie →
    ∃ status body payload, (registry s request).1 = .response status body ∧
      (200 ≤ status ∧ status < 300) ∧ Client.Spells body payload ∧
      Artifact.decode (mapKeys toCamel payload) = .ok a

variable {registry : Responder σ} {clients : Clients} {a : Artifact}

theorem Serves.getOne (h : Serves registry clients a) {slug : Slug}
    (hslug : slug.segments.map toLower = a.slug.segments.map toLower)
    (hsome : slug.isEmpty = false) (s : σ) :
    result registry (Artifacts.getOne clients.artifacts slug) s = .ok a.normalized := by
  have htarget : (clients.artifacts.target? slug.path).isSome :=
    Client.target?_under h.reachable rfl (by rw [Slug.path, String.toList_append]; rfl)
  obtain ⟨url, htarget⟩ := Option.isSome_iff_exists.mp htarget
  have hsends : clients.artifacts.Sends .get slug.path
      { method := .get, url, cookie := clients.artifacts.cookie, body := none } :=
    ⟨rfl, (Option.filter_eq_some_iff.mp htarget).1⟩
  obtain ⟨status, body, payload, hanswer, hstatus, hpayload, hdecode⟩ :=
    h.tells s _ slug hslug hsends rfl
  have hget : result registry (clients.artifacts.get slug.path Artifact.decode) s = .ok a := by
    rw [Client.get, Client.send_of_target htarget, result_ask, hanswer, result_done,
      Client.receive_success url hstatus hpayload, Client.typed, hdecode]
  rw [Artifacts.getOne, hsome, if_neg Bool.false_ne_true, result_map, hget]
  rfl

end Registry

namespace Artifact

variable {a : Artifact} {version : Option String}

theorem gate_of_link {request : Http.Request} (h : ∀ s ∈ a.linkNames version, IsName s)
    (hmethod : request.method = "GET") (htarget : request.target = a.link version) :
    Console.gate request = some (.of (a.endpoint version),
      fun n => Pages.artifact n a.slug.lower (version.map toLower)) := by
  have hplace : Route.Place.ofPath? request.path.toList =
      some (.guarded (a.endpoint version), a.linkArguments lowered version) := by
    rw [Http.Request.path, String.toList_ofList, htarget, link_isPath h, ofPath?_link h]
  have hpages : ∀ e ∈ pageEndpoints, (Route.Place.guarded e).methods.contains "GET" = true := by
    decide
  have hget := hpages _ (a.endpoint_mem version)
  rw [← hmethod] at hget
  simp only [Console.gate, hplace, hget, if_true]
  refine congrArg (fun page => some (Route.of (a.endpoint version), page)) (funext fun n => ?_)
  exact answer_link h request n

end Artifact

namespace Pages

open Page
open Artifact (IsName)

/-- The page of an artifact at one of its versions, which alone is selected among all of them. -/
structure Shows (response : Http.Response) (a : Artifact) (version : String) : Prop where
  status : response.status = 200
  page : ∃ (page : ArtifactPage) (view : ArtifactView),
    response.body = page.markup.render ∧ page.artifact = .ok view ∧ view.version = version ∧
      view.versions.map (·.version) = Version.newestFirst a.versions ∧
      ∀ link ∈ view.versions, link.selected = true ↔ link.version = version

/-- The page that says that an artifact has no such version. -/
structure Misses (response : Http.Response) (version : String) : Prop where
  status : response.status = 404
  page : ∃ page : ArtifactPage, response.body = page.markup.render ∧
    page.artifact = .error ("Version " ++ version ++ " was not found.")

/-- The page for the version that is asked for, or for the latest if none is. -/
def Answers (response : Http.Response) (a : Artifact) (version : Option String) : Prop :=
  match selectVersion? a.normalized version with
  | some chosen => Shows response a chosen
  | none => Misses response (version.getD "")

variable {registry : Responder σ} {n : Navigation} {a : Artifact} {s : σ} {slug : Slug}

theorem artifact_result {userName : String} {answer : Envelope Artifact} (version : Option String)
    (huser : n.userName = .ok userName)
    (hanswer : result registry (Artifacts.getOne n.clients.artifacts slug) s = answer) :
    ∃ shown : ArtifactPage, shown.artifact = (artifactContent n.now version answer).2 ∧
      result registry (artifact n slug version) s =
        .ok (page (artifactContent n.now version answer).1 shown.markup) := by
  refine ⟨⟨slug.joined, n.runtime.companyName, userName, _⟩, rfl, ?_⟩
  rw [artifact, bind_eq_bind, result_bind, hanswer]
  simp only [pure_eq_done, result_done, huser]
  rfl

theorem view_of_select (now : Instant) {version : Option String} {chosen : String}
    (h : selectVersion? a.normalized version = some chosen) :
    ∃ view, ArtifactView.of? now version a.normalized = some view ∧ view.version = chosen ∧
      view.versions =
        a.normalized.versions.map fun v => ⟨v, a.normalized.versionUrl v, v == chosen⟩ := by
  rw [ArtifactView.of?, h]
  exact ⟨_, rfl, rfl, rfl⟩

theorem artifact_answers {userName : String} (version : Option String) (headers : Http.Headers)
    (huser : n.userName = .ok userName)
    (hanswer : result registry (Artifacts.getOne n.clients.artifacts slug) s =
      .ok a.normalized) :
    Answers { Console.responseOf (result registry (artifact n slug version) s) with headers } a
      version := by
  obtain ⟨shown, hshown, hresult⟩ := artifact_result version huser hanswer
  rw [hresult, Answers]
  cases hselect : selectVersion? a.normalized version with
  | none =>
      have hview : ArtifactView.of? n.now version a.normalized = none := by
        rw [ArtifactView.of?, hselect, Option.map_none]
      simp only [artifactContent, hview] at hshown ⊢
      exact ⟨rfl, shown, rfl, hshown⟩
  | some chosen =>
      obtain ⟨view, hview, hversion, hversions⟩ := view_of_select n.now hselect
      simp only [artifactContent, hview] at hshown ⊢
      refine ⟨rfl, shown, view, rfl, hshown, hversion, ?_, ?_⟩
      · rw [hversions, List.map_map]
        exact List.map_id _
      · intro link hlink
        rw [hversions] at hlink
        obtain ⟨v, -, rfl⟩ := List.mem_map.mp hlink
        exact beq_iff_eq

/-- A version in capital letters is asked for in small ones, which no version of the artifact is
written in. -/
theorem selectVersion?_toLower {version : String} (hversion : version ∈ a.versions)
    (hname : IsName version) (hdistinct : (a.versions.map toLower).Nodup) :
    selectVersion? a.normalized (some (toLower version)) =
      if toLower version = version then some version else none := by
  have hmem : toLower version ∈ Version.newestFirst a.versions ↔ toLower version = version := by
    rw [Version.newestFirst, List.mem_mergeSort]
    refine ⟨fun h => ?_, fun h => by rwa [h]⟩
    exact List.inj_on_of_nodup_map hdistinct h hversion hname.toLower_toLower
  rw [selectVersion?, Artifact.normalized]
  by_cases hlower : toLower version = version
  · rw [if_pos hlower, hlower, if_pos]
    rwa [List.contains_iff_mem, ← hlower, hmem]
  · rw [if_neg hlower, if_neg]
    rwa [List.contains_iff_mem, hmem]

/-- A version in small letters is shown, and one with capital letters is missed. -/
structure LeadsTo (response : Http.Response) (a : Artifact) (version : String) : Prop where
  shows : toLower version = version → Shows response a version
  misses : toLower version ≠ version → Misses response (toLower version)

theorem LeadsTo.of_answers {response : Http.Response} {version : String}
    (hversion : version ∈ a.versions) (hname : IsName version)
    (hdistinct : (a.versions.map toLower).Nodup)
    (h : Answers response a (some (toLower version))) : LeadsTo response a version := by
  rw [Answers, selectVersion?_toLower hversion hname hdistinct] at h
  by_cases hlower : toLower version = version
  · rw [if_pos hlower] at h
    exact ⟨fun _ => h, fun hne => absurd hlower hne⟩
  · rw [if_neg hlower] at h
    exact ⟨fun heq => absurd heq hlower, fun _ => h⟩

theorem link_of_mem {shownAt : Instant} {requested : Option String} {view : ArtifactView}
    (h : ArtifactView.of? shownAt requested a.normalized = some view) {link : VersionLink}
    (hlink : link ∈ view.versions) :
    link.version ∈ a.versions ∧ link.url = a.link (some link.version) := by
  obtain ⟨chosen, -, rfl⟩ := Option.map_eq_some_iff.mp h
  obtain ⟨version, hversion, rfl⟩ := List.mem_map.mp hlink
  exact ⟨List.mem_mergeSort.mp hversion, (a.link_some version).symm⟩

end Pages

namespace Console

open Artifact Page
open Pages (Shows Answers LeadsTo)

variable {registry : Responder σ} {c : Console} {now : Instant} {request : Http.Request}
variable {s : σ} {a : Artifact} {version : Option String}

theorem serve_of_link (draws : Draws) (hnames : ∀ name ∈ a.linkNames version, IsName name)
    (hserves : Serves registry (c.start now request).clients a) (hmethod : request.method = "GET")
    (hproceeds : c.Proceeds registry s now request) (htarget : request.target = a.link version) :
    Answers (result registry (c.serve now draws request) s).1 a (version.map toLower) := by
  have hslug : ∀ name ∈ a.slug.segments, IsName name :=
    fun name hname => hnames name (List.mem_append_left _ hname)
  have hhead : request.method ≠ Route.Place.headMethod := by
    rw [hmethod]
    decide
  have hpages : ∀ e ∈ pageEndpoints, e ∉ [.login, .logout, .forbidden] := by
    decide
  have hendpoint := hpages _ (a.endpoint_mem version)
  obtain ⟨n, userName, before, hserved⟩ :=
    serve_of_proceeds draws (gate_of_link hnames hmethod htarget) hendpoint hhead hproceeds
  have hanswer : result registry (Artifacts.getOne n.clients.artifacts a.slug.lower)
      (after registry s before) = .ok a.normalized := by
    rw [hserved.clients]
    exact hserves.getOne (Slug.lower_toLower hslug) (Slug.lower_isEmpty hslug) _
  obtain ⟨headers, hresponse⟩ := hserved.response
  rw [hresponse]
  exact Pages.artifact_answers _ headers hserved.named hanswer

/-- Behind a guard that lets the user through, the links of an artifact lead where they say if what
they name is written in small letters: the artifact's own link to the page of its latest version,
and each link of its page to the page of one version, which alone is selected there. Links are in
small letters but versions are looked up as they are written, so a link to a version with capital
letters leads to a page that says that there is no such version. -/
theorem artifact_links_lead (registry : Responder σ) (s : σ) (c : Console) (now : Instant)
    (draws : Draws) (request : Http.Request) (a : Artifact)
    (hnames : ∀ name ∈ a.slug.segments ++ a.versions, IsName name)
    (hdistinct : (a.versions.map toLower).Nodup)
    (hserves : Serves registry (c.start now request).clients a) (hmethod : request.method = "GET")
    (hproceeds : c.Proceeds registry s now request) :
    let response := (result registry (c.serve now draws request) s).1
    (request.target = a.normalized.url →
      (∀ version ∈ a.normalized.latest?, LeadsTo response a version) ∧
        (a.versions = [] → Shows response a "")) ∧
      ∀ shownAt requested view, ArtifactView.of? shownAt requested a.normalized = some view →
        ∀ link ∈ view.versions, request.target = link.url → LeadsTo response a link.version := by
  have hversion : ∀ version ∈ a.versions, request.target = a.link (some version) →
      LeadsTo (result registry (c.serve now draws request) s).1 a version := by
    intro version hmem htarget
    have hlinkNames : ∀ name ∈ a.linkNames (some version), IsName name := by
      rw [linkNames, List.forall_mem_append]
      rw [List.forall_mem_append] at hnames
      exact ⟨hnames.1, List.forall_mem_singleton.mpr (hnames.2 version hmem)⟩
    have hname : IsName version := hnames version (List.mem_append_right _ hmem)
    exact .of_answers hmem hname hdistinct
      (serve_of_link draws hlinkNames hserves hmethod hproceeds htarget)
  refine ⟨fun htarget => ⟨fun version hlatest => ?_, fun hempty => ?_⟩, ?_⟩
  · rw [url_eq_link, Option.mem_def.mp hlatest] at htarget
    have hmem : version ∈ a.versions := List.mem_mergeSort.mp (List.mem_of_head? hlatest)
    exact hversion version hmem htarget
  · have hlatest : a.normalized.latest? = none := by
      rw [latest?, normalized, hempty, Version.newestFirst, List.mergeSort_nil, List.head?_nil]
    rw [url_eq_link, hlatest] at htarget
    have hlinkNames : ∀ name ∈ a.linkNames none, IsName name := by
      rwa [hempty] at hnames
    have hanswers := serve_of_link draws hlinkNames hserves hmethod hproceeds htarget
    rw [Answers, Option.map_none, selectVersion?, hlatest] at hanswers
    exact hanswers
  · intro shownAt requested view hview link hmem htarget
    obtain ⟨hmemVersions, hurl⟩ := Pages.link_of_mem hview hmem
    exact hversion link.version hmemVersions (htarget.trans hurl)

/-- A registry that tells of one artifact, but of no session where those are kept. -/
private def telling (a : Artifact) : Responder Unit := fun s call =>
  if call.url.scheme = "https".toList then (.response 401 [], s)
  else (.response 200 (Utf8.encode (mapKeys toSnake a.toJson).text), s)

private def network (versions : List String) : Artifact where
  id := "9"
  fullName := "acme/Network/aws"
  namespaceName := "acme"
  name := "Network"
  kind := .module "aws"
  versions
  createdAt := ⟨1709210096, 0⟩
  updatedAt := ⟨1709210096, 0⟩

/-- A console that remembers Ada and where her session is kept. -/
private def visited : Console where
  settings := { registry := { url := "http://registry" } }
  cache :=
    { path := "/internal/runtime.json"
      defaults := {}
      resolved := some (.resolve { auth := { sessionEndpoint := "https://login/session" } } {}) }
  records := [("AAAAAAAAAAAAAAAAAAAAAA",
    (Snapshot.itemsOf ⟨"Ada", "ada@example.org", [], none⟩ ⟨60, 0⟩).map fun item =>
      (item.1, .string item.2))]

private def getting (target : String) : Http.Request where
  method := "GET"
  target
  headers := [("cookie", "id=AAAAAAAAAAAAAAAAAAAAAA")]

private theorem telling_serves (versions : List String) (request : Http.Request) :
    Serves (telling (network versions)) (visited.start ⟨0, 0⟩ request).clients
      (network versions) := by
  have hroot : ∃ root, (visited.start ⟨0, 0⟩ request).clients.root.target? "/" = some root ∧
      root.scheme = "http".toList := by
    refine Option.map_eq_some_iff.mp ?_
    change ((Client.under "http://registry" "").target? "/").map (·.scheme) = _
    decide +kernel
  obtain ⟨root, hroot, hscheme⟩ := hroot
  refine ⟨Option.isSome_of_mem hroot, fun s call slug _ hsends _ => ?_⟩
  have hpath : slug.path.toList.head? = some '/' := by
    rw [Slug.path, String.toList_append]
    rfl
  obtain ⟨url, hurl, hsame, -⟩ := Client.urlFor_under_leadsTo
    ⟨root, (Option.filter_eq_some_iff.mp hroot).1, rfl, rfl⟩
    (rfl : artifactsPath.toList.head? = some '/') hpath
  have hcall : call.url = url := Option.some.inj (hsends.2.symm.trans hurl)
  have hanswer : (telling (network versions) s call).1 =
      .response 200 (Utf8.encode (mapKeys toSnake (network versions).toJson).text) := by
    rw [telling, hcall, hsame, hscheme]
    rfl
  refine ⟨200, _, _, hanswer, by decide, Client.spells_iff.mpr rfl, ?_⟩
  rw [((network versions).toJson_portable _).restored]
  have hdate : Instant.IsValid ⟨1709210096, 0⟩ ∧ Instant.HasFourDigitYear ⟨1709210096, 0⟩ := by
    decide
  exact decode_toJson hdate hdate

/-- The release of a module that has a candidate for another beside it. -/
theorem artifact_links_lead_release :
    let a := network ["1.9.0", "2.0.0-RC1"]
    let request := getting "/modules/acme/network/aws/1.9.0"
    (∀ name ∈ a.slug.segments ++ a.versions, IsName name) ∧ (a.versions.map toLower).Nodup ∧
      Serves (telling a) (visited.start ⟨0, 0⟩ request).clients a ∧ request.method = "GET" ∧
      visited.Proceeds (telling a) () ⟨0, 0⟩ request ∧
      Shows (result (telling a) (visited.serve ⟨0, 0⟩ ⟨"", "", 0⟩ request) ()).1 a "1.9.0" := by
  intro a request
  have hnames : ∀ name ∈ a.slug.segments ++ a.versions, IsName name := by decide
  have hdistinct : (a.versions.map toLower).Nodup := by decide
  have hlinkNames : ∀ name ∈ a.linkNames (some "1.9.0"), IsName name := by decide
  have htarget : request.target = a.versionUrl "1.9.0" := by decide +kernel
  have hproceeds : visited.Proceeds (telling a) () ⟨0, 0⟩ request :=
    ⟨_, _, gate_of_link hlinkNames rfl (htarget.trans (a.link_some _).symm), by decide +kernel⟩
  have hselect : selectVersion? a.normalized (some "1.9.0") = some "1.9.0" :=
    if_pos (List.contains_iff_mem.mpr (List.mem_mergeSort.mpr List.mem_cons_self))
  obtain ⟨view, hview, -, hversions⟩ := Pages.view_of_select ⟨0, 0⟩ hselect
  have hlink : ⟨"1.9.0", a.versionUrl "1.9.0", true⟩ ∈ view.versions := by
    rw [hversions]
    exact List.mem_map.mpr ⟨"1.9.0", List.mem_mergeSort.mpr List.mem_cons_self, rfl⟩
  have hserves := telling_serves a.versions request
  exact ⟨hnames, hdistinct, hserves, rfl, hproceeds,
    ((artifact_links_lead (telling a) () visited ⟨0, 0⟩ ⟨"", "", 0⟩ request a hnames hdistinct hserves
      rfl hproceeds).2 ⟨0, 0⟩ _ view hview _ hlink htarget).shows (by decide)⟩

/-- The candidate is the latest version, and the link to it leads nowhere. -/
theorem artifact_links_lead_candidate :
    let a := network ["2.0.0-RC1"]
    let request := getting "/modules/acme/network/aws/2.0.0-rc1"
    (∀ name ∈ a.slug.segments ++ a.versions, IsName name) ∧ (a.versions.map toLower).Nodup ∧
      Serves (telling a) (visited.start ⟨0, 0⟩ request).clients a ∧ request.method = "GET" ∧
      visited.Proceeds (telling a) () ⟨0, 0⟩ request ∧ request.target = a.normalized.url ∧
      a.normalized.latest? = some "2.0.0-RC1" ∧
      (result (telling a) (visited.serve ⟨0, 0⟩ ⟨"", "", 0⟩ request) ()).1.status = 404 := by
  intro a request
  have hnames : ∀ name ∈ a.linkNames (some "2.0.0-RC1"), IsName name := by decide
  have hdistinct : (a.versions.map toLower).Nodup := by decide
  have htarget : request.target = a.link (some "2.0.0-RC1") := by decide +kernel
  have hlatest : a.normalized.latest? = some "2.0.0-RC1" :=
    congrArg List.head? (List.mergeSort_singleton _)
  have hproceeds : visited.Proceeds (telling a) () ⟨0, 0⟩ request :=
    ⟨_, _, gate_of_link hnames rfl htarget, by decide +kernel⟩
  have hserves := telling_serves a.versions request
  have hleads : LeadsTo (result (telling a) (visited.serve ⟨0, 0⟩ ⟨"", "", 0⟩ request) ()).1 a
      "2.0.0-RC1" :=
    .of_answers List.mem_cons_self (by decide) hdistinct
      (serve_of_link ⟨"", "", 0⟩ hnames hserves rfl hproceeds htarget)
  refine ⟨hnames, hdistinct, hserves, rfl, hproceeds, ?_, hlatest, ?_⟩
  · rw [url_eq_link, hlatest]
    exact htarget
  · exact (hleads.misses (by decide)).status

end Console

end RegistryConsole
