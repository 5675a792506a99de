import RegistryConsole.Proofs.Registry.Operations
import RegistryConsole.Proofs.Url.Segments
/-!
# Identifiers in paths

An operation writes its identifiers into the path as they are. They come out as the segments of the
request's path exactly if each of them is a text that a segment can hold (`Operation.segments_iff`);
others lead to the resource of another operation (`Operation.another_resource`).
-/
namespace RegistryConsole.Registry

open Dialogue Text

variable {σ α : Type}

/-- The segments of the base path. -/
def Group.segments : Group → List String
  | authorities => ["v1", "api", "authorities"]
  | artifacts => ["v1", "api", "artifacts"]

namespace Form

/-- All segments behind the address of the registry. -/
def allSegments (f : Form) : List String :=
  f.group.segments ++ f.segments

theorem path_toList (f : Form) :
    f.path.toList = '/' :: join ['/'] (f.segments.map String.toList) := by
  have hslash : "/" = String.ofList ['/'] := rfl
  rw [path, String.toList_append]
  nth_rewrite 2 [hslash]
  rw [toList_intercalate]
  rfl

theorem join_allSegments (f : Form) (h : f.segments ≠ []) :
    join ['/'] (f.allSegments.map String.toList) =
      join ['/'] (f.group.segments.map String.toList) ++ f.path.toList := by
  have hne : f.group.segments.map String.toList ≠ [] := by
    cases f.group <;> exact List.cons_ne_nil _ _
  rw [allSegments, List.map_append, join_append '/' hne (by simpa using h), path_toList]

theorem address_toList (f : Form) (registryUrl : String) (h : f.segments ≠ []) :
    (f.address registryUrl).toList =
      baseOf registryUrl ++ '/' :: join ['/'] (f.allSegments.map String.toList) := by
  have hgroup : f.group.basePath.toList =
      '/' :: join ['/'] (f.group.segments.map String.toList) := by
    cases f.group <;> rfl
  rw [address, String.toList_append, String.toList_append, String.toList_ofList, hgroup,
    join_allSegments f h, List.append_assoc]
  rfl

end Form

theorem Clients.ofChars?_root {clients : Clients} {root : Url}
    (h : clients.root.target? "/" = some root) :
    Url.ofChars? (Form.baseOf clients.registryUrl ++ ['/']) = some root := by
  have haddress := (Option.filter_eq_some_iff.mp h).1
  have hslash : "/".toList = ['/'] := rfl
  rw [Url.ofString?, Client.urlFor_slash _ hslash, Clients.root, Client.under_baseUrl,
    String.toList_empty, List.append_nil] at haddress
  exact haddress

namespace Operation

theorem segments_ne_nil (op : Operation α) : op.form.segments ≠ [] := by
  cases op <;> exact List.cons_ne_nil _ _

/-- The segments that are no identifiers. -/
def literals : List String :=
  ["v1", "api", "authorities", "artifacts", "keys", "api-keys", "version", ""]

theorem literals_isSegment : ∀ segment ∈ literals, Url.IsSegment segment.toList := by
  decide +kernel

theorem mem_allSegments_iff (op : Operation α) {p : String → Prop}
    (hliterals : ∀ segment ∈ literals, p segment) :
    (∀ segment ∈ op.form.allSegments, p segment) ↔ ∀ id ∈ op.form.ids, p id := by
  simp only [literals, List.forall_mem_cons] at hliterals
  cases op <;>
    simp_all [form, Form.allSegments, Form.whole, Form.one, Form.below, Form.oneBelow,
      Group.segments, or_imp, forall_and]

/-- Against a registry whose own address has neither a query nor a fragment, an operation with
identifiers other than dots sends one request. It has no query, and the segments of its path stand
for those of the registry, of the base path and of the operation, exactly if each identifier is a
text that a segment can hold and the last one does not end in a blank or a control. -/
theorem segments_iff (op : Operation α) (clients : Clients) (registry : Responder σ) (s : σ)
    {root : Url} (hroot : clients.root.target? "/" = some root) (hquery : root.query = none)
    (hfragment : root.fragment = none)
    (hids : ∀ id ∈ op.form.ids, id ≠ "" ∧ id ≠ "." ∧ id ≠ "..") :
    ∃ url, calls registry (op.dialogue clients) s = [op.form.request clients.cookie url] ∧
      (url.query = none ∧ url.path.map Percent.decode =
          root.path.dropLast.map Percent.decode ++
            (op.form.group.segments ++ op.form.segments).map Utf8.encode ↔
        (∀ id ∈ op.form.ids, Url.IsSegment id.toList) ∧
          ∀ c ∈ op.form.path.toList.getLast?, 0x20 < c.toNat) := by
  have hsent : op.form.isRefused = false := by
    rw [← Bool.not_eq_true, Form.isRefused_iff]
    exact fun hempty => (hids "" hempty).1 rfl
  have hreach : (clients.root.target? "/").isSome := by
    rw [hroot]
    rfl
  obtain ⟨url, hurl⟩ := Option.isSome_iff_exists.mp (op.target?_isSome hreach)
  have haddress := hurl
  rw [target?_eq] at haddress
  replace haddress := (Option.filter_eq_some_iff.mp haddress).1
  have hne : op.form.allSegments.map String.toList ≠ [] := by
    simp [Form.allSegments, op.segments_ne_nil]
  have hdots : ∀ t ∈ op.form.allSegments.map String.toList, t ≠ ['.'] ∧ t ≠ ['.', '.'] := by
    rw [List.forall_mem_map, op.mem_allSegments_iff (by decide)]
    exact fun id hid => ⟨fun h => (hids id hid).2.1 (String.toList_inj.mp h),
      fun h => (hids id hid).2.2 (String.toList_inj.mp h)⟩
  obtain ⟨url', hurl', hiff⟩ :=
    Url.ofChars?_segments_iff (Clients.ofChars?_root hroot) hquery hfragment hne hdots
  rw [← op.form.address_toList _ op.segments_ne_nil] at hurl'
  obtain rfl : url = url' := Option.some.inj (haddress.symm.trans hurl')
  refine ⟨url, ?_, ?_⟩
  · rw [op.calls_of_not_isRefused clients registry s hsent, hurl]
    rfl
  · have hlast : (join ['/'] (op.form.allSegments.map String.toList)).getLast? =
        op.form.path.toList.getLast? := by
      rw [op.form.join_allSegments op.segments_ne_nil, Form.path_toList]
      exact List.getLast?_append_of_ne_nil _ (List.cons_ne_nil _ _)
    rw [hlast, List.forall_mem_map, op.mem_allSegments_iff literals_isSegment,
      List.map_map] at hiff
    exact hiff

/-- Identifiers of any script, with blanks and signs within them. -/
theorem segments_iff_plain :
    let clients : Clients := { registryUrl := "https://registry.example/own/" }
    ∃ url, calls unanswered ((deleteKey "a b&=+" "ключ").dialogue clients) () =
        [{ method := .delete, url, cookie := none, body := none }] ∧
      url.query = none ∧ url.path.map Percent.decode =
        ["own", "v1", "api", "authorities", "a b&=+", "keys", "ключ"].map Utf8.encode := by
  intro clients
  obtain ⟨root, hroot⟩ : ∃ root, clients.root.target? "/" = some root :=
    Option.isSome_iff_exists.mp (by decide +kernel)
  have hparts : (clients.root.target? "/").map (fun root =>
      (root.query, root.fragment, root.path.dropLast.map Percent.decode)) =
        some (none, none, [Utf8.encode "own"]) := by decide +kernel
  rw [hroot, Option.map_some, Option.some_inj, Prod.mk.injEq, Prod.mk.injEq] at hparts
  obtain ⟨hquery, hfragment, hpath⟩ := hparts
  obtain ⟨url, hcalls, hiff⟩ := segments_iff (deleteKey "a b&=+" "ключ") clients unanswered ()
    hroot hquery hfragment (by decide)
  have hlast : (deleteKey "a b&=+" "ключ").form.path.toList.getLast? = some 'ч' := by
    decide +kernel
  rw [hlast] at hiff
  obtain ⟨hnoQuery, hsegments⟩ := hiff.mpr ⟨by decide +kernel, by simp⟩
  rw [hpath] at hsegments
  exact ⟨url, hcalls, hnoQuery, hsegments⟩

/-- An authority whose identifier holds slashes is deleted by deleting a key of another one. -/
theorem another_resource :
    let clients : Clients := { registryUrl := "http://registry.test" }
    calls unanswered ((deleteAuthority "a1/keys/k1").dialogue clients) () =
        calls unanswered ((deleteKey "a1" "k1").dialogue clients) () ∧
      (calls unanswered ((deleteAuthority "a1/keys/k1").dialogue clients) ()).map
          (fun request => request.url.path.map Percent.decode) =
        [["v1", "api", "authorities", "a1", "keys", "k1"].map Utf8.encode] ∧
      ["v1", "api", "authorities", "a1", "keys", "k1"].map Utf8.encode ≠
        ["v1", "api", "authorities", "a1/keys/k1"].map Utf8.encode := by
  intro clients
  have haddress : (deleteAuthority "a1/keys/k1").form.address clients.registryUrl =
        "http://registry.test/v1/api/authorities/a1/keys/k1" ∧
      (deleteKey "a1" "k1").form.address clients.registryUrl =
        "http://registry.test/v1/api/authorities/a1/keys/k1" := by decide
  have hpath : ((Url.ofString? "http://registry.test/v1/api/authorities/a1/keys/k1").filter
      Client.isSendable).map (fun url => url.path.map Percent.decode) =
        some (["v1", "api", "authorities", "a1", "keys", "k1"].map Utf8.encode) := by
    decide +kernel
  obtain ⟨url, hurl, hpath⟩ := Option.map_eq_some_iff.mp hpath
  rw [calls_of_not_isRefused _ _ _ _ rfl, calls_of_not_isRefused _ _ _ _ rfl, target?_eq,
    target?_eq, haddress.1, haddress.2, hurl]
  exact ⟨rfl, congrArg (fun path => [path]) hpath, by decide⟩

end Operation

end RegistryConsole.Registry
