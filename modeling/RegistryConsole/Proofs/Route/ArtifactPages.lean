import RegistryConsole.Console.Pages
import RegistryConsole.Proofs.Artifact.Links
import RegistryConsole.Proofs.Text.Percent
/-!
# The places of artifacts

The link to an artifact's page is a path of the pattern for its kind, at a version or without one,
and the arguments of that pattern are the names of the artifact in small letters.
-/
namespace RegistryConsole

open Text Route

theorem Http.pathOf_slash {rest : List Char} (h : ∀ c ∈ rest, c ≠ '?' ∧ c ≠ '#') :
    pathOf ('/' :: rest) = '/' :: rest := by
  let isPathEnd (c : Char) : Bool := c = '?' || c = '#'
  have hall : ∀ c ∈ '/' :: rest, (!isPathEnd c) = true := by
    rw [List.forall_mem_cons]
    exact ⟨by decide, fun c hc => by simp [isPathEnd, h c hc]⟩
  have htake : ('/' :: rest ++ []).takeWhile (!isPathEnd ·) = '/' :: rest ++ [] :=
    List.takeWhile_append_of_pos hall
  rwa [List.append_nil] at htake

theorem Pages.decodeArguments_of_not_mem {arguments : Arguments}
    (h : ∀ argument ∈ arguments, '%' ∉ argument.2) :
    decodeArguments arguments =
      .ok (arguments.map fun argument => (argument.1, String.ofList argument.2)) := by
  induction arguments with
  | nil => rfl
  | cons argument rest ih =>
      rw [List.forall_mem_cons] at h
      rw [decodeArguments, Percent.decodeText?_of_not_mem h.1, ih h.2]
      rfl

namespace Artifact

open Endpoint in
/-- The endpoint of an artifact's page, at a version or without one. -/
def endpoint (a : Artifact) (version : Option String) : Endpoint :=
  match a.kind, version with
  | .provider, none => provider
  | .provider, some _ => providerVersion
  | .module _, none => module
  | .module _, some _ => moduleVersion

/-- The endpoints of artifacts' pages. -/
def pageEndpoints : List Endpoint :=
  [.module, .moduleVersion, .provider, .providerVersion]

theorem endpoint_mem (a : Artifact) (version : Option String) :
    a.endpoint version ∈ pageEndpoints := by
  obtain ⟨id, fullName, namespaceName, name, kind, versions, createdAt, updatedAt⟩ := a
  cases kind <;> cases version <;> simp [endpoint, pageEndpoints]

/-- The names of an artifact by the parameters of that endpoint, put into a form. -/
def linkArguments (form : String → α) (a : Artifact) (version : Option String) :
    List (String × α) :=
  [(Endpoint.namespaceName, form a.namespaceName), (Endpoint.artifactName, form a.name)] ++
    a.kind.provider?.toList.map (Endpoint.providerName, form ·) ++
    version.toList.map (Endpoint.versionName, form ·)

variable {a : Artifact} {version : Option String}

/-- Only the pattern of an artifact's own endpoint matches the parts of a link. -/
private theorem findSome?_linkParts {kind : ArtifactKind} (hkind : a.kind = kind)
    (hcons : ∀ s ∈ a.linkNames version, ∃ c rest, lowered s = c :: rest) :
    (Place.all.findSome? fun p =>
      (p.pattern.match? ((a.linkParts version).map lowered)).map (p, ·)) =
      some (.guarded (a.endpoint version), a.linkArguments lowered version) := by
  rw [forall_mem_linkNames, hkind] at hcons
  obtain ⟨⟨c, rest, hnamespace⟩, ⟨c', rest', hname⟩, hprovider, hversion⟩ := hcons
  have hparts : a.linkParts version = kind.category :: a.namespaceName :: a.name ::
      (kind.provider?.toList ++ version.toList) := by
    rw [← hkind]
    rfl
  simp only [hparts, linkArguments, endpoint, hkind, hnamespace, hname, List.map_cons,
    List.map_append, List.cons_append, List.nil_append]
  cases kind with
  | provider =>
      cases version with
      | none => rfl
      | some version =>
          obtain ⟨d, end', hversion⟩ := hversion version rfl
          simp only [Option.toList, List.map_cons, List.map_nil, hversion]
          rfl
  | module provider =>
      obtain ⟨d, end', hprovider⟩ := hprovider provider rfl
      simp only [ArtifactKind.category, ArtifactKind.provider?, Option.toList, List.map_cons,
        List.map_nil, hprovider]
      cases version with
      | none => rfl
      | some version =>
          obtain ⟨e, end'', hversion⟩ := hversion version rfl
          simp only [List.map_cons, List.map_nil, hversion]
          rfl

theorem link_isPath (h : ∀ s ∈ a.linkNames version, IsName s) :
    Http.pathOf (a.link version).toList = (a.link version).toList := by
  rw [link_toList h]
  refine Http.pathOf_slash fun c hc => ?_
  obtain rfl | ⟨part, hpart, hc⟩ := eq_or_mem_of_mem_join hc
  · decide
  · have hnone := not_mem_of_linkParts h hpart hc
    simp only [List.mem_cons, List.not_mem_nil, or_false, not_or] at hnone
    exact ⟨hnone.2.1, hnone.2.2.1⟩

theorem ofPath?_link (h : ∀ s ∈ a.linkNames version, IsName s) :
    Place.ofPath? (a.link version).toList =
      some (.guarded (a.endpoint version), a.linkArguments lowered version) := by
  have hslash : ∀ part ∈ (a.linkParts version).map lowered, '/' ∉ part :=
    fun part hpart hmem => not_mem_of_linkParts h hpart hmem (by simp)
  have hsegments : segments? (a.link version).toList =
      some ((a.linkParts version).map lowered) := by
    rw [link_toList h, segments?, split_join _ hslash]
    exact List.cons_ne_nil _ _
  rw [Place.ofPath?, hsegments, Option.bind_some]
  exact findSome?_linkParts rfl fun s hs => List.exists_cons_of_ne_nil (h s hs).lowered_ne_nil

theorem linkArguments_map {form : String → α} {form' : String → β} {g : α → β}
    (h : ∀ s ∈ a.linkNames version, g (form s) = form' s) :
    (a.linkArguments form version).map (fun argument => (argument.1, g argument.2)) =
      a.linkArguments form' version := by
  obtain ⟨hnamespace, hname, hprovider, hversion⟩ := forall_mem_linkNames.mp h
  have hmap {found : Option String} (hfound : ∀ s ∈ found, g (form s) = form' s) (key : String) :
      found.toList.map (fun s => (key, g (form s))) = found.toList.map fun s => (key, form' s) :=
    List.map_congr_left fun s hs => congrArg (Prod.mk key) (hfound s (Option.mem_toList.mp hs))
  simp only [linkArguments, List.map_append, List.map_cons, List.map_nil, List.map_map,
    Function.comp_def, hnamespace, hname, hmap hprovider, hmap hversion]

theorem forall_mem_linkArguments {form : String → α} {p : α → Prop}
    (h : ∀ s ∈ a.linkNames version, p (form s)) :
    ∀ argument ∈ a.linkArguments form version, p argument.2 := by
  obtain ⟨hnamespace, hname, hprovider, hversion⟩ := forall_mem_linkNames.mp h
  simp only [linkArguments, List.forall_mem_append, List.forall_mem_cons, List.forall_mem_map,
    List.not_mem_nil, Option.mem_toList]
  exact ⟨⟨⟨hnamespace, hname, nofun⟩, hprovider⟩, hversion⟩

theorem slugOf_linkArguments (a : Artifact) (version : Option String) :
    Pages.slugOf (fun name => (a.linkArguments toLower version).lookup name) = a.slug.lower := by
  obtain ⟨id, fullName, namespaceName, name, kind, versions, createdAt, updatedAt⟩ := a
  cases kind <;> cases version <;> rfl

theorem lookup_linkArguments (form : String → α) (a : Artifact) (version : Option String) :
    (a.linkArguments form version).lookup Endpoint.versionName = version.map form := by
  obtain ⟨id, fullName, namespaceName, name, kind, versions, createdAt, updatedAt⟩ := a
  cases kind <;> cases version <;> rfl

theorem answer_link (h : ∀ s ∈ a.linkNames version, IsName s)
    (request : Http.Request) (n : Navigation) :
    Pages.answer (a.endpoint version) (a.linkArguments lowered version) request n =
      Pages.artifact n a.slug.lower (version.map toLower) := by
  have hanswer : Pages.answer (a.endpoint version) (a.linkArguments lowered version) request n =
      Pages.withArguments (a.linkArguments lowered version) fun argument =>
        Pages.artifact n (Pages.slugOf argument) (argument Endpoint.versionName) := by
    obtain ⟨id, fullName, namespaceName, name, kind, versions, createdAt, updatedAt⟩ := a
    cases kind <;> cases version <;> rfl
  have hplain : ∀ argument ∈ a.linkArguments lowered version, '%' ∉ argument.2 :=
    forall_mem_linkArguments (p := ('%' ∉ ·)) fun s hs hmem =>
      isNameChar_not_mem ((h s hs).isNameChar_lowered hmem) (by simp)
  have htexts : (a.linkArguments lowered version).map
      (fun argument => (argument.1, String.ofList argument.2)) =
        a.linkArguments toLower version :=
    linkArguments_map fun s hs => (h s hs).toLower_eq.symm
  rw [hanswer, Pages.withArguments, Pages.decodeArguments_of_not_mem hplain, htexts]
  simp only
  rw [slugOf_linkArguments, lookup_linkArguments]

end Artifact

end RegistryConsole
