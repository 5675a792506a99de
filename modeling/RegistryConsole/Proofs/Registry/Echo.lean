import RegistryConsole.Proofs.Registry.Outcome
import RegistryConsole.Proofs.Registry.Records
import RegistryConsole.Proofs.Url.Below
import RegistryConsole.Registry.Deployment
/-!
# Updates that come back

A registry that takes an update and sends back the body it received gives back what was updated
(`Clients.update_echoed`). The body is a value that comes back from snake case and from its own
text, and every path below a registry has an address if the registry has one.
-/
namespace RegistryConsole

open Text Keys

namespace Json

theorem Textual.mapKeys {depth : Nat} {v : Json} (h : Textual depth v) (f : String → String) :
    Textual depth (Keys.mapKeys f v) := by
  induction h with
  | null => exact .null
  | bool b => exact .bool b
  | string s => exact .string s
  | array _ ih =>
      rw [mapKeys_array]
      exact .array (List.forall_mem_map.mpr ih)
  | object _ _ ih =>
      rw [mapKeys_object]
      exact .ofMembers (List.forall_mem_map.mpr ih)

theorem Textual.not_isBlank {depth : Nat} {v : Json} (h : Textual depth v) :
    ¬ (Utf8.encode v.text).all Registry.Client.isBlankOctet = true := by
  rw [Utf8.encode, Json.text, String.toList_ofList]
  cases h with
  | null => decide
  | bool b => cases b <;> decide
  | string s => exact Bool.false_ne_true
  | array h => exact Bool.false_ne_true
  | object hsorted h => exact Bool.false_ne_true

theorem Textual.payloadOf_text {v : Json} (h : Textual maxDepth v) :
    Registry.Client.payloadOf (Utf8.encode v.text) = v := by
  rw [Registry.Client.payloadOf, if_neg h.not_isBlank, ofBytes?_text h, Option.getD_some]

/-- What is sent in snake case and comes back is read as it was. -/
theorem Portable.restored {v : Json} (h : Portable maxDepth v) :
    Keys.mapKeys toCamel (Registry.Client.payloadOf (Utf8.encode (Keys.mapKeys toSnake v).text)) =
      v := by
  rw [(h.textual.mapKeys toSnake).payloadOf_text]
  exact mapKeys_mapKeys h.textual.ordered h.keys

end Json

namespace Registry

open Dialogue Json

variable {σ α : Type}

/-- The registry takes every update and sends back the body it received. -/
def Echoes (registry : Responder σ) : Prop :=
  ∀ s request body, request.method = .patch → request.body = some body →
    (registry s request).1 = .response 200 (Utf8.encode body.text)

namespace Client

variable {registry : Responder σ} {s : σ} {c c' : Client} {path path' : String}

theorem patch_echoed {decode : Decoder α} {v : Json} (hecho : Echoes registry)
    (htarget : (c.target? path).isSome) (hv : Portable maxDepth v) :
    result registry (c.patch path v decode) s = typed decode (.ok v) := by
  obtain ⟨url, hurl⟩ := Option.isSome_iff_exists.mp htarget
  rw [patch, sendBody, send_of_target hurl, result_ask, result_done, hecho _ _ _ rfl rfl,
    receive_success url (by decide) (spells_iff.mpr rfl), hv.restored]

theorem target?_of_leadsTo (h : (c.target? path).isSome)
    (hleads : ∀ scheme host, Url.LeadsTo scheme host (Url.ofString? (c.urlFor path)) →
      Url.LeadsTo scheme host (Url.ofString? (c'.urlFor path'))) : (c'.target? path').isSome := by
  obtain ⟨url, hurl⟩ := Option.isSome_iff_exists.mp h
  obtain ⟨haddress, hsend⟩ := Option.filter_eq_some_iff.mp hurl
  obtain ⟨url', haddress', hscheme, hhost⟩ := hleads url.scheme url.host ⟨url, haddress, rfl, rfl⟩
  have hsend' : isSendable url' = true := by
    rw [isSendable, hscheme, hhost]
    exact hsend
  rw [target?, haddress', Option.filter_some_pos hsend']
  rfl

theorem urlFor_slash (c : Client) {rest : List Char} (h : path.toList = '/' :: rest) :
    (c.urlFor path).toList = c.baseUrl.toList ++ '/' :: rest := by
  have hrelative : ¬ (startsWith "http://".toList path.toList ||
      startsWith "https://".toList path.toList) = true := by
    rw [h]
    exact Bool.false_ne_true
  rw [urlFor, if_neg hrelative, String.toList_append, h]

theorem under_baseUrl (registryUrl base : String) (cookie : Option String) :
    ((under registryUrl base).forwarding cookie).baseUrl.toList =
      (registryUrl.toList.reverse.dropWhile (· = '/')).reverse ++ base.toList := by
  rw [forwarding, under, String.toList_append, String.toList_ofList]

/-- Every path below a base path leads where the registry's own address does. -/
theorem urlFor_under_leadsTo {registryUrl base : String} {cookie : Option String}
    {scheme : List Char} {host : Url.Host}
    (h : Url.LeadsTo scheme host
      (Url.ofString? (((under registryUrl "").forwarding cookie).urlFor "/")))
    (hbase : base.toList.head? = some '/') (hpath : path.toList.head? = some '/') :
    Url.LeadsTo scheme host
      (Url.ofString? (((under registryUrl base).forwarding cookie).urlFor path)) := by
  obtain ⟨baseRest, hbase⟩ := List.head?_eq_some_iff.mp hbase
  obtain ⟨pathRest, hpath⟩ := List.head?_eq_some_iff.mp hpath
  have hslash : "/".toList = ['/'] := rfl
  rw [Url.ofString?, urlFor_slash _ hslash, under_baseUrl, String.toList_empty,
    List.append_nil] at h
  rw [Url.ofString?, urlFor_slash _ hpath, under_baseUrl, hbase, List.append_assoc,
    List.cons_append]
  exact Url.ofChars?_below h _

theorem target?_under {registryUrl base : String} {cookie : Option String}
    (h : (((under registryUrl "").forwarding cookie).target? "/").isSome)
    (hbase : base.toList.head? = some '/') (hpath : path.toList.head? = some '/') :
    (((under registryUrl base).forwarding cookie).target? path).isSome :=
  target?_of_leadsTo h fun _ _ hleads => urlFor_under_leadsTo hleads hbase hpath

end Client

private def mirror : Responder Unit := fun s request =>
  (.response 200 (Utf8.encode (request.body.getD .null).text), s)

private def acme : Authority where
  id := "7"
  name := "acme"
  isPublic := true
  keys := [{ id := "1", keyId := "51852D87348FFC4C", asciiArmor := "-----BEGIN\n" }]
  apiKeys := [{ id := "2", name := "ci" }]

private def network : Artifact where
  id := "9"
  fullName := "acme/network/aws"
  namespaceName := "acme"
  name := "network"
  kind := .module "aws"
  versions := ["1.9.0", "0.9.0", "1.10.0"]
  createdAt := ⟨1709210096, 789000000⟩
  updatedAt := ⟨-62167219200, 1⟩

end Registry

end RegistryConsole
