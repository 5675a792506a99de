import RegistryConsole.Proofs.Registry.Client
import RegistryConsole.Registry.Deployment
/-!
# The runtime document over time

While the registry gives one answer to every request for the runtime document, there is one
configuration, whether it is kept already, obtained now or never.
-/
namespace RegistryConsole.Registry.RuntimeCache

open Dialogue

variable {σ : Type} {registry : Responder σ}

/-- The configuration that one answer to the request for the document leads to. -/
def resolvedFrom (cache : RuntimeCache) (root : Client) (document : Answer) :
    Option RuntimeConfiguration :=
  cache.resolved.or ((root.dataOf cache.path RuntimeDocument.decode document).map
    (RuntimeConfiguration.resolve · cache.defaults))

/-- The cache once the document was asked for. -/
def filledFrom (cache : RuntimeCache) (root : Client) (document : Answer) : RuntimeCache :=
  { cache with resolved := cache.resolvedFrom root document }

theorem resolvedFrom_init (cache : RuntimeCache) (root : Client) (document : Answer) :
    resolvedFrom { cache with resolved := cache.resolvedFrom root document } root document =
      cache.resolvedFrom root document := by
  simp only [resolvedFrom, Option.or_assoc, Option.or_self]

theorem filledFrom_filledFrom (cache : RuntimeCache) (root : Client) (document : Answer) :
    (cache.filledFrom root document).filledFrom root document =
      cache.filledFrom root document := by
  rw [filledFrom, filledFrom, resolvedFrom_init]

theorem init_of_replies {cache : RuntimeCache} {root : Client} {document : Answer} {s : σ}
    (h : Replies registry s (calls registry (cache.init root) s) fun _ call answer =>
      root.Sends .get cache.path call → answer = document) :
    result registry (cache.init root) s = (cache.resolvedFrom root document,
      { cache with resolved := cache.resolvedFrom root document }) := by
  obtain ⟨path, defaults, resolved⟩ := cache
  cases resolved with
  | some runtime => rfl
  | none =>
      change Replies registry s (calls registry (refresh ⟨path, defaults, none⟩ root) s) _ at h
      change result registry (refresh ⟨path, defaults, none⟩ root) s = _
      rw [refresh, calls_map] at h
      rw [refresh, result_map, resolvedFrom, Option.none_or]
      have hdata := Client.data?_get_of_replies (p := fun _ => False)
        (h.mono fun _ _ _ hanswer hsends => .inl (hanswer hsends))
      obtain hdata | ⟨hfalse, -⟩ := hdata
      · dsimp only at hdata ⊢
        rw [← hdata]
        cases result registry (root.get path RuntimeDocument.decode) s with
        | ok document => rfl
        | error message details => rfl
      · exact hfalse.elim

end RegistryConsole.Registry.RuntimeCache
