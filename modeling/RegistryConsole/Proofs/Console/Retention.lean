import RegistryConsole.Proofs.Console.Persistence
import RegistryConsole.Proofs.Console.Traffic
/-!
# What the console keeps

From request to request the console keeps its settings, and a configuration once it was resolved. As
long as there is none, each guard may obtain one, and nothing else does.
-/
namespace RegistryConsole

open Registry Dialogue

/-- What obtaining the configuration leaves of the cache. -/
structure Registry.RuntimeCache.Keeps (cache cache' : RuntimeCache) : Prop where
  path : cache'.path = cache.path
  defaults : cache'.defaults = cache.defaults
  resolved : ∀ runtime, cache.resolved = some runtime → cache'.resolved = some runtime

theorem Registry.RuntimeCache.Keeps.refl (cache : RuntimeCache) : cache.Keeps cache :=
  ⟨rfl, rfl, fun _ h => h⟩

theorem Registry.RuntimeCache.Keeps.trans {cache cache' cache'' : RuntimeCache}
    (h : cache.Keeps cache') (h' : cache'.Keeps cache'') : cache.Keeps cache'' :=
  ⟨h'.path.trans h.path, h'.defaults.trans h.defaults,
    fun runtime hr => h'.resolved runtime (h.resolved runtime hr)⟩

namespace Console

variable {σ : Type} {registry : Responder σ} {c : Console} {a : Arrival} {s : σ}

/-- The navigation of an arrival once its guard has asked for the configuration. -/
def loaded (registry : Responder σ) (s : σ) (c : Console) (a : Arrival) : Navigation :=
  result registry (c.start a.now a.request).loadRuntime s

/-- What asking for the configuration comes to. -/
structure Loaded (c : Console) (a : Arrival) (n : Navigation) : Prop where
  frame : ∃ loaded cache, n = { c.start a.now a.request with loaded := loaded, cache := cache }
  resolved : n.cache.resolved = n.loaded
  keeps : c.cache.Keeps n.cache

theorem loaded_loaded (registry : Responder σ) (s : σ) (c : Console) (a : Arrival) :
    c.Loaded a (c.loaded registry s a) := by
  rw [loaded]
  refine Meets.result (p := fun _ => True) ?_ registry s
  have hinit : (c.cache.init (c.start a.now a.request).clients.root).Meets (fun _ => True)
      fun r => r.2.resolved = r.1 ∧ c.cache.Keeps r.2 := by
    rw [RuntimeCache.init]
    cases hresolved : c.cache.resolved with
    | some runtime => exact .done ⟨hresolved, .refl c.cache⟩
    | none =>
        refine Meets.bind_any (fun _ => True.intro) _ ?_
        intro answer
        cases answer with
        | ok document =>
            refine .done ⟨rfl, rfl, rfl, fun runtime hruntime => ?_⟩
            rw [hresolved] at hruntime
            cases hruntime
        | error message details => exact .done ⟨hresolved, .refl c.cache⟩
  exact hinit.map fun r hr => ⟨⟨r.1, r.2, rfl⟩, hr.1, hr.2⟩

theorem loaded_source (registry : Responder σ) (s : σ) (c : Console) (a : Arrival) :
    (c.loaded registry s a).source = .announced := by
  obtain ⟨runtime, cache, hframe⟩ := (c.loaded_loaded registry s a).frame
  rw [hframe]
  rfl

theorem cache_answering {route : Route} {page : Navigation → Dialogue Pages.Reply}
    (hgate : gate a.request = some (route, page)) :
    (result registry (c.answering a) s).2.cache = (c.loaded registry s a).cache := by
  obtain ⟨trimmed, -, hanswering⟩ := answering_of_gate hgate
  have hloads := loadsFirst_of_gate hgate
  rw [hanswering, result_map, finish_cache, Option.map_some, Option.getD_some,
    visit_eq_attend hloads, result_bind]
  exact ((attend_discreet hloads (page_discreet hgate) _).meets.result registry _).2

theorem cache_answering_of_unguarded (hgate : gate a.request = none) :
    (result registry (c.answering a) s).2.cache = c.cache := by
  obtain ⟨answer, hanswer⟩ := exists_unguarded hgate
  rw [answering_of_unguarded hanswer, result_done, finish_cache]
  rfl

theorem settings_answering (registry : Responder σ) (s : σ) (c : Console) (a : Arrival) :
    (result registry (c.answering a) s).2.settings = c.settings := by
  rw [answering, serve, result_map]
  exact finish_settings ..

theorem keeps_answering (registry : Responder σ) (s : σ) (c : Console) (a : Arrival) :
    c.cache.Keeps (result registry (c.answering a) s).2.cache := by
  cases hgate : gate a.request with
  | none =>
      rw [cache_answering_of_unguarded hgate]
      exact .refl c.cache
  | some found =>
      rw [cache_answering hgate]
      exact (c.loaded_loaded registry s a).keeps

/-- The console and the registry after a list of arrivals. -/
def leaves (registry : Responder σ) : List Arrival → Console → σ → Console × σ
  | [], c, s => (c, s)
  | a :: rest, c, s =>
    leaves registry rest (result registry (c.answering a) s).2
      (endState registry (c.answering a) s)

theorem keeps_leaves (registry : Responder σ) (arrivals : List Arrival) (c : Console) (s : σ) :
    c.cache.Keeps (c.leaves registry arrivals s).1.cache := by
  induction arrivals generalizing c s with
  | nil => exact .refl c.cache
  | cons a rest ih => exact (keeps_answering registry s c a).trans (ih _ _)

end Console

end RegistryConsole
