import RegistryConsole.Proofs.Console.Access
import RegistryConsole.Proofs.Console.Requests
import RegistryConsole.Proofs.Console.Retention
import RegistryConsole.Proofs.Registry.Outcome
/-!
# Obtaining the runtime document

Each guard asks for the runtime document before anything else, until one of them is told it. From
then on there is one configuration, and no guard asks for the document again. A guard that is not
told it goes on with the defaults, under which nobody is signed in.
-/
namespace RegistryConsole

open Registry Dialogue Route

/-- The request for the document on behalf of an arrival, if requests can be sent to its address. -/
def Settings.fetch (settings : Settings) (a : Arrival) : Option Registry.Request :=
  Client.Call.get.request?
    ((Client.under settings.registry.url "").forwarding (a.request.headers.get? "cookie"))
    settings.registry.runtimePath

namespace Console

variable {σ : Type}

/-- The document that an arrival would be told first thing. -/
def document? (registry : Responder σ) (s : σ) (settings : Settings) (a : Arrival) :
    Option RuntimeDocument :=
  (settings.fetch a).bind fun call => (registry s call).1.told? RuntimeDocument.decode

/-- The first document that a guard was told. -/
def firstDocument? (registry : Responder σ) (settings : Settings) :
    List Arrival → Console → σ → Option RuntimeDocument
  | [], _, _ => none
  | a :: rest, c, s =>
    ((gate a.request).bind fun _ => document? registry s settings a).or
      (firstDocument? registry settings rest (result registry (c.answering a) s).2
        (endState registry (c.answering a) s))

/-- The visit that an arrival is, if it comes to a guard. -/
def visitOf (registry : Responder σ) (s : σ) (c : Console) (a : Arrival) : Option Visit :=
  (result registry (c.respond a.request (Place.ofPath? a.request.path.toList)
    (c.start a.now a.request)) s).2

/-- How an arrival fares, given the document that was obtained before it. -/
inductive Fares (registry : Responder σ) (s : σ) (c : Console) (settings : Settings)
    (a : Arrival) : Option RuntimeDocument → Prop where
  | unguarded {earlier : Option RuntimeDocument} (hgate : gate a.request = none)
    (hvisit : visitOf registry s c a = none)
    (hcalls : calls registry (c.answering a) s = []) : Fares registry s c settings a earlier
  | kept {document : RuntimeDocument} {v : Visit} (hvisit : visitOf registry s c a = some v)
    (hloaded : v.navigation.loaded = some (.resolve document settings.defaults))
    (hcalls : ∀ call ∈ calls registry (c.answering a) s,
      v.navigation.AsksSession call ∨ v.navigation.AsksResource call) :
    Fares registry s c settings a (some document)
  | obtained {document : RuntimeDocument} {v : Visit} {later : List Registry.Request}
    (hdocument : document? registry s settings a = some document)
    (hvisit : visitOf registry s c a = some v)
    (hloaded : v.navigation.loaded = some (.resolve document settings.defaults))
    (hcalls : calls registry (c.answering a) s = (settings.fetch a).toList ++ later)
    (hlater : ∀ call ∈ later, v.navigation.AsksSession call ∨ v.navigation.AsksResource call) :
    Fares registry s c settings a none
  | failed {v : Visit} (hdocument : document? registry s settings a = none)
    (hvisit : visitOf registry s c a = some v)
    (hruntime : v.navigation.runtime = .fallback settings.defaults)
    (hsession : v.navigation.hasSession = false)
    (hcalls : calls registry (c.answering a) s = (settings.fetch a).toList) :
    Fares registry s c settings a none

/-- The console keeps what was resolved from the document that was obtained before. -/
structure Remembers (settings : Settings) (earlier : Option RuntimeDocument)
    (c : Console) : Prop where
  settings_eq : c.settings = settings
  cache_eq : c.cache =
    { path := settings.registry.runtimePath
      defaults := settings.defaults
      resolved := earlier.map (.resolve · settings.defaults) }

variable {registry : Responder σ} {s : σ} {settings : Settings} {c : Console} {a : Arrival}

section Loading

variable (registry s a)

private theorem loadRuntime_of_kept {document : RuntimeDocument}
    (h : Remembers settings (some document) c) :
    calls registry (c.start a.now a.request).loadRuntime s = [] ∧
      (c.loaded registry s a).loaded = some (.resolve document settings.defaults) := by
  have hcache : (c.start a.now a.request).cache.resolved =
      some (.resolve document settings.defaults) := by
    change c.cache.resolved = _
    rw [h.cache_eq]
    rfl
  rw [loaded, Navigation.loadRuntime, RuntimeCache.init, hcache]
  exact ⟨rfl, rfl⟩

private theorem loadRuntime_of_none (h : Remembers settings none c) :
    calls registry (c.start a.now a.request).loadRuntime s = (settings.fetch a).toList ∧
      (c.loaded registry s a).loaded =
        (document? registry s settings a).map (.resolve · settings.defaults) ∧
      (document? registry s settings a = none → (c.loaded registry s a).cache = c.cache) := by
  have hstart : (c.start a.now a.request).cache = ⟨settings.registry.runtimePath,
      settings.defaults, none⟩ := h.cache_eq
  have hroot : (c.start a.now a.request).clients.root =
      (Client.under settings.registry.url "").forwarding (a.request.headers.get? "cookie") := by
    rw [← h.settings_eq]
    rfl
  rw [loaded, Navigation.loadRuntime, calls_map, result_map, hstart, hroot, RuntimeCache.init,
    RuntimeCache.refresh, calls_map, result_map]
  have hcalls := Client.Call.calls_eq registry s
    ((Client.under settings.registry.url "").forwarding (a.request.headers.get? "cookie"))
    settings.registry.runtimePath RuntimeDocument.decode .get
  have hdata := Client.Call.data?_eq registry s
    ((Client.under settings.registry.url "").forwarding (a.request.headers.get? "cookie"))
    settings.registry.runtimePath RuntimeDocument.decode .get
  rw [document?, Settings.fetch, ← hdata, ← hcalls]
  refine ⟨rfl, ?_⟩
  rw [h.cache_eq]
  dsimp only [Client.Call.dialogue]
  generalize result registry (Client.get _ _ RuntimeDocument.decode) s = answer
  cases answer with
  | ok document => exact ⟨rfl, fun hnone => absurd hnone (Option.some_ne_none _)⟩
  | error message details => exact ⟨rfl, fun _ => rfl⟩

end Loading

/-- A guarded arrival asks for the configuration first, and then goes on with what it was told. -/
private theorem exists_later {route : Route} {page : Navigation → Dialogue Pages.Reply}
    (hgate : gate a.request = some (route, page)) :
    ∃ v, visitOf registry s c a = some v ∧
      v = result registry (visit route page (c.start a.now a.request)) s ∧
      v.navigation.loaded = (c.loaded registry s a).loaded ∧
      ∃ later, calls registry (c.answering a) s =
          calls registry (c.start a.now a.request).loadRuntime s ++ later ∧
        ∀ call ∈ later, v.navigation.AsksSession call ∨ v.navigation.AsksResource call := by
  obtain ⟨trimmed, -, hrespond⟩ := respond_of_gate_eq_some hgate
  obtain ⟨trimmed', -, hanswering⟩ := answering_of_gate hgate
  have hmeets := attend_meets hgate (loaded_source registry s c a)
  refine ⟨_, by rw [visitOf, hrespond, result_map], rfl, ?_⟩
  rw [hanswering, calls_map, visit_eq_attend (loadsFirst_of_gate hgate), result_bind, calls_bind]
  obtain ⟨storage, hleft⟩ := hmeets.result registry
    (endState registry (c.start a.now a.request).loadRuntime s)
  rw [loaded] at hleft hmeets
  rw [hleft]
  exact ⟨rfl, _, rfl, hmeets.calls registry _⟩

private theorem fares_of_none {route : Route} {page : Navigation → Dialogue Pages.Reply}
    (hremembers : Remembers settings none c) (hgate : gate a.request = some (route, page)) :
    Fares registry s c settings a none := by
  obtain ⟨hcalls, hloaded, -⟩ := loadRuntime_of_none registry s a hremembers
  obtain ⟨v, hvisit, hv, hvloaded, later, hlater, hasks⟩ := exists_later (c := c) hgate
  rw [hloaded] at hvloaded
  rw [hcalls] at hlater
  cases hdocument : document? registry s settings a with
  | some document =>
      rw [hdocument] at hvloaded
      exact .obtained hdocument hvisit hvloaded hlater hasks
  | none =>
      rw [hdocument, Option.map_none] at hvloaded hloaded
      have hsession : (c.loaded registry s a).hasSession = false :=
        Navigation.hasSession_of_not_loaded (loaded_source registry s c a) hloaded
      -- without an endpoint for the session there is nothing to renew
      have hrefresh : (c.loaded registry s a).refreshSession =
          .done (.ok (), c.loaded registry s a) := by
        rw [Navigation.refreshSession, hsession]
        rfl
      have hprepare : result registry (c.start a.now a.request).prepare s =
          (.ok (), c.loaded registry s a) := by
        rw [Navigation.prepare, result_bind, ← loaded, hrefresh, result_done]
      have hread : (c.loaded registry s a).readSession = .ok none := by
        rw [Navigation.readSession, hsession]
        rfl
      obtain ⟨hleft, hasked⟩ := visit_of_absent hgate hprepare hread
      obtain ⟨trimmed, -, hanswering⟩ := answering_of_gate hgate
      refine .failed hdocument hvisit ?_ ?_ ?_
      · rw [hv, hleft, Navigation.runtime, hloaded, Option.getD_none,
          (c.loaded_loaded registry s a).keeps.defaults, hremembers.cache_eq]
      · rw [hv, hleft, hsession]
      · rw [hanswering, calls_map, hasked, Navigation.prepare, calls_bind, ← loaded, hrefresh,
          calls_done, List.append_nil, hcalls]

private theorem fares_of_remembers {earlier : Option RuntimeDocument}
    (hremembers : Remembers settings earlier c) (registry : Responder σ) (s : σ) (a : Arrival) :
    Fares registry s c settings a earlier := by
  cases hgate : gate a.request with
  | none =>
      obtain ⟨answer, hanswer⟩ := exists_unguarded hgate
      refine .unguarded hgate ?_ ?_
      · rw [visitOf, hanswer.respond]
        rfl
      · rw [answering_of_unguarded hanswer, calls_done]
  | some found =>
      obtain ⟨route, page⟩ := found
      cases earlier with
      | none => exact fares_of_none hremembers hgate
      | some document =>
          obtain ⟨hcalls, hloaded⟩ := loadRuntime_of_kept registry s a hremembers
          obtain ⟨v, hvisit, -, hvloaded, later, hlater, hasks⟩ := exists_later (c := c) hgate
          rw [hloaded] at hvloaded
          rw [hcalls, List.nil_append] at hlater
          rw [← hlater] at hasks
          exact .kept hvisit hvloaded hasks

private theorem remembers_answering {earlier : Option RuntimeDocument}
    (hremembers : Remembers settings earlier c) (registry : Responder σ) (s : σ) (a : Arrival) :
    Remembers settings (earlier.or ((gate a.request).bind fun _ => document? registry s settings a))
      (result registry (c.answering a) s).2 where
  settings_eq := (settings_answering registry s c a).trans hremembers.settings_eq
  cache_eq := by
    cases hgate : gate a.request with
    | none =>
        rw [cache_answering_of_unguarded hgate, Option.bind_none, Option.or_none]
        exact hremembers.cache_eq
    | some found =>
        have hloaded : (c.loaded registry s a).loaded =
            (earlier.or (document? registry s settings a)).map
              (.resolve · settings.defaults) := by
          cases earlier with
          | none =>
              rw [Option.none_or]
              exact (loadRuntime_of_none registry s a hremembers).2.1
          | some document =>
              rw [Option.some_or]
              exact (loadRuntime_of_kept registry s a hremembers).2
        have hkeeps := (c.loaded_loaded registry s a).keeps
        rw [hremembers.cache_eq] at hkeeps
        have hpath : (c.loaded registry s a).cache.path = settings.registry.runtimePath :=
          hkeeps.path
        have hdefaults : (c.loaded registry s a).cache.defaults = settings.defaults :=
          hkeeps.defaults
        rw [cache_answering hgate, Option.bind_some, ← hloaded, ← hpath, ← hdefaults,
          ← (c.loaded_loaded registry s a).resolved]

private theorem remembers_leaves {earlier : Option RuntimeDocument} (registry : Responder σ)
    (arrivals : List Arrival) (s : σ) (hremembers : Remembers settings earlier c) :
    Remembers settings (earlier.or (firstDocument? registry settings arrivals c s))
      (c.leaves registry arrivals s).1 := by
  induction arrivals generalizing c s earlier with
  | nil =>
      rw [firstDocument?, Option.or_none]
      exact hremembers
  | cons a rest ih =>
      rw [firstDocument?, ← Option.or_assoc]
      exact ih _ (remembers_answering hremembers registry s a)

/-- A registry whose document announces its own path for the session. -/
private def circular : Responder Unit := fun _ _ =>
  (.response 200 (Text.Utf8.encode
    "\x7b\"auth\":\x7b\"sessionEndpoint\":\"/internal/runtime.json\"\x7d\x7d"), ())

private def knocking : Arrival where
  browser := 0
  now := ⟨0, 0⟩
  draws := ⟨"AAAAAAAAAAAAAAAAAAAAAA", "1", 0⟩
  request := { method := "GET", target := "/" }

end Console

end RegistryConsole
