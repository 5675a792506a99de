import RegistryConsole.Proofs.Registry.Operations
import RegistryConsole.Proofs.Version.NewestFirst
/-!
# Versions from the registry

Whatever versions an operation is told of come newest first, those of one artifact and of each in a
list, and nothing else is changed in what it is told (`Operation.delivers_newestFirst`). That holds
wherever the order of versions is transitive on the lists that are told.
-/
namespace RegistryConsole.Registry

open Dialogue

variable {σ α β : Type}

section Calls

variable (c : Client) (path : String) (decode : Json.Decoder α)

theorem Client.get_puts : (c.get path decode).Puts decode (Client.Call.get.request? c path) :=
  Client.Call.get.puts c path decode

theorem Client.delete_puts :
    (c.delete path decode).Puts decode (Client.Call.delete.request? c path) :=
  Client.Call.delete.puts c path decode

theorem Client.post_puts (body : Json) :
    (c.post path body decode).Puts decode ((Client.Call.post (.ok body)).request? c path) :=
  (Client.Call.post (.ok body)).puts c path decode

theorem Client.patch_puts (body : Json) :
    (c.patch path body decode).Puts decode ((Client.Call.patch (.ok body)).request? c path) :=
  (Client.Call.patch (.ok body)).puts c path decode

end Calls

theorem Answer.told?_map (answer : Answer) (decode : Json.Decoder β) (g : β → α) :
    answer.told? (fun v => (decode v).map g) = (answer.told? decode).map g := by
  cases answer with
  | response status body =>
      rw [told?, told?]
      split
      · cases decode (Keys.mapKeys Keys.toCamel (Client.payloadOf body)) <;> rfl
      · rfl
  | nothing | cutShort => rfl

namespace Dialogue.Puts

variable {d : Dialogue (Envelope β)} {decode : Json.Decoder β} {request? : Option Request}

theorem map (h : d.Puts decode request?) (g : β → α) :
    (d.map (.map g)).Puts (fun v => (decode v).map g) request? where
  calls registry s := by rw [calls_map, h.calls]
  data? registry s := by
    have hdata := h.data? registry s
    have hmap : ((result registry d s).map g).data? = (result registry d s).data?.map g := by
      cases result registry d s <;> rfl
    rw [result_map, hmap, hdata, Option.map_bind]
    congr 1
    funext call
    exact ((registry s call).1.told?_map decode g).symm

/-- A call that ends with data was told them in the answer to its request. -/
theorem told_of_result (h : d.Puts decode request?) {registry : Responder σ} {s : σ} {data : β}
    (hdata : result registry d s = .ok data) :
    ∃ call, Dialogue.calls registry d s = [call] ∧
      (registry s call).1.told? decode = some data := by
  have htold := h.data? registry s
  rw [hdata] at htold
  obtain ⟨call, hcall, htold⟩ := Option.bind_eq_some_iff.mp htold.symm
  exact ⟨call, by rw [h.calls, hcall, Option.toList_some], htold⟩

end Dialogue.Puts

namespace Operation

/-- How an operation reads what it is told. -/
def decoder : Operation α → Json.Decoder α
  | allAuthorities => Json.decodeList Authority.decode
  | authority _ | createAuthority _ | updateAuthority _ => Authority.decode
  | allKeys _ => Json.decodeList Key.decode
  | key _ _ | createKey _ _ | updateKey _ _ => Key.decode
  | allApiKeys _ => Json.decodeList ApiKey.decode
  | apiKey _ _ | createApiKey _ _ | updateApiKey _ _ => ApiKey.decode
  | allArtifacts => Json.decodeList Artifact.decode
  | artifact _ | createArtifact _ | updateArtifact _ => Artifact.decode
  | allVersions _ => Json.decodeList Json.decodeString
  | deleteAuthority _ | deleteKey _ _ | deleteApiKey _ _ | deleteArtifact _ => Json.decodeBool

/-- What an operation makes of what it has read. -/
def arrange : Operation α → α → α
  | allArtifacts => List.map Artifact.normalized
  | artifact _ | createArtifact _ | updateArtifact _ => Artifact.normalized
  | allVersions _ => Version.newestFirst
  | _ => id

theorem exists_puts (op : Operation α) (clients : Clients) : ∃ request?,
    (op.dialogue clients).Puts (fun v => (op.decoder v).map op.arrange) request? := by
  have hid {γ : Type} (decode : Json.Decoder γ) : (fun v => (decode v).map id) = decode := by
    funext v
    cases decode v <;> rfl
  cases op <;> simp only [decoder, arrange, hid, dialogue, Authorities.getAll, Authorities.getOne,
    Authorities.create, Authorities.update, Authorities.delete, Keys.getAll, Keys.getOne,
    Keys.create, Keys.update, Keys.delete, ApiKeys.getAll, ApiKeys.getOne, ApiKeys.create,
    ApiKeys.update, ApiKeys.delete, Artifacts.getAll, Artifacts.getOne, Artifacts.getAllVersions,
    Artifacts.create, Artifacts.update, Artifacts.delete]
  case allAuthorities => exact ⟨_, Client.get_puts _ _ _⟩
  case createAuthority => exact ⟨_, Client.post_puts _ _ _ _⟩
  case authority | allKeys | key | allApiKeys | apiKey =>
    exact ⟨_, (Client.get_puts _ _ _).guard _ _⟩
  case createKey | createApiKey => exact ⟨_, (Client.post_puts _ _ _ _).guard _ _⟩
  case updateAuthority | updateKey | updateApiKey =>
    exact ⟨_, (Client.patch_puts _ _ _ _).guard _ _⟩
  case deleteAuthority | deleteKey | deleteApiKey | deleteArtifact =>
    exact ⟨_, (Client.delete_puts _ _ _).guard _ _⟩
  case allArtifacts => exact ⟨_, (Client.get_puts _ _ _).map _⟩
  case createArtifact => exact ⟨_, (Client.post_puts _ _ _ _).map _⟩
  case artifact | allVersions => exact ⟨_, ((Client.get_puts _ _ _).map _).guard _ _⟩
  case updateArtifact => exact ⟨_, ((Client.patch_puts _ _ _ _).map _).guard _ _⟩

/-- The lists of versions in what an operation is told. -/
def versionLists : Operation α → α → List (List String)
  | allArtifacts, artifacts => artifacts.map Artifact.versions
  | artifact _, a | createArtifact _, a | updateArtifact _, a => [a.versions]
  | allVersions _, versions => [versions]
  | _, _ => []

/-- What an operation is told and what it ends with: versions newest first, all else as it is. -/
def Delivers : Operation α → α → α → Prop
  | allArtifacts => List.Forall₂ Artifact.NewestFirst
  | artifact _ | createArtifact _ | updateArtifact _ => Artifact.NewestFirst
  | allVersions _ => Version.NewestFirst
  | _ => Eq

theorem delivers_arrange (op : Operation α) {told : α}
    (h : ∀ versions ∈ op.versionLists told, Version.IsConsistent versions) :
    op.Delivers told (op.arrange told) := by
  cases op
  case allArtifacts =>
    rw [versionLists, List.forall_mem_map] at h
    refine List.forall₂_map_right_iff.mpr (List.forall₂_same.mpr fun a ha => ?_)
    exact Artifact.normalized_newestFirst (h a ha)
  case artifact | createArtifact | updateArtifact =>
    exact Artifact.normalized_newestFirst (h _ List.mem_cons_self)
  case allVersions => exact Version.newestFirst_of_isConsistent (h _ List.mem_cons_self)
  all_goals exact rfl

/-- An operation that ends with data was told them in the complete answer of success to its one
request, and what it was told is delivered with all versions newest first, if the order of versions
is transitive on each list of them. -/
theorem delivers_newestFirst (op : Operation α) (clients : Clients) (registry : Responder σ)
    (s : σ) {data : α} (h : result registry (op.dialogue clients) s = .ok data) :
    ∃ call told, calls registry (op.dialogue clients) s = [call] ∧
      (registry s call).1.told? op.decoder = some told ∧
      ((∀ versions ∈ op.versionLists told, Version.IsConsistent versions) →
        op.Delivers told data) := by
  obtain ⟨request?, hputs⟩ := op.exists_puts clients
  obtain ⟨call, hcalls, htold⟩ := hputs.told_of_result h
  rw [Answer.told?_map, Option.map_eq_some_iff] at htold
  obtain ⟨told, htold, rfl⟩ := htold
  exact ⟨call, told, hcalls, htold, op.delivers_arrange⟩

private def vpc : Artifact where
  id := "3"
  fullName := "acme/vpc/aws"
  namespaceName := "acme"
  name := "vpc"
  kind := .module "aws"
  versions := ["1.2.0", "v2.0", "1.10.0", "2.0.0+b", "2.0.0-rc.1"]
  createdAt := ⟨1672567200, 0⟩
  updatedAt := ⟨1685613600, 500000000⟩

/-- A registry that tells of one artifact, whatever it is asked. -/
private def listing : Responder Unit := fun s _ =>
  (.response 200 (Text.Utf8.encode (Keys.mapKeys Keys.toSnake vpc.toJson).text), s)

private theorem listing_told (call : Request) :
    (listing () call).1.told? Artifact.decode = some vpc := by
  have hdate : (vpc.createdAt.IsValid ∧ vpc.createdAt.HasFourDigitYear) ∧
      vpc.updatedAt.IsValid ∧ vpc.updatedAt.HasFourDigitYear := by decide
  rw [listing, Answer.told?, if_pos (by decide), (vpc.toJson_portable _).restored,
    Artifact.decode_toJson hdate.1 hdate.2]
  rfl

/-- A version with two components, a candidate, and two of one rank. -/
theorem delivers_newestFirst_vpc :
    let clients : Clients := { registryUrl := "https://registry.example" }
    let op := artifact vpc.slug
    ∃ a, result listing (op.dialogue clients) () = .ok a ∧
      (∀ versions ∈ op.versionLists vpc, Version.IsConsistent versions) ∧ vpc.NewestFirst a := by
  intro clients op
  have hconsistent : ∀ versions ∈ op.versionLists vpc, Version.IsConsistent versions := by
    refine List.forall_mem_singleton.mpr (Version.isConsistent_of_bounded ?_)
    simp only [Version.Semantic.IsBounded]
    decide +kernel
  obtain ⟨url, hurl⟩ : ∃ url, clients.artifacts.target? vpc.slug.path = some url :=
    Option.isSome_iff_exists.mp (by decide +kernel)
  have hdata : (result listing (clients.artifacts.get vpc.slug.path Artifact.decode) ()).data? =
      some vpc := by
    rw [Client.get, Client.send_of_target hurl, result_ask, result_done, Client.receive_data?,
      listing_told]
  obtain ⟨a, ha⟩ : ∃ a, result listing (op.dialogue clients) () = .ok a := by
    rw [dialogue, Artifacts.getOne, if_neg (by decide), result_map]
    cases hget : result listing (clients.artifacts.get vpc.slug.path Artifact.decode) () with
    | ok a => exact ⟨_, rfl⟩
    | error message details =>
        rw [hget] at hdata
        cases hdata
  obtain ⟨call, told, -, htold, hdelivers⟩ := delivers_newestFirst op clients listing () ha
  obtain rfl : vpc = told := Option.some.inj ((listing_told call).symm.trans htold)
  exact ⟨a, ha, hconsistent, hdelivers hconsistent⟩

end Operation

end RegistryConsole.Registry
