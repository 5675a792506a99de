import RegistryConsole.Http.Header
import RegistryConsole.Proofs.Session.Storage
/-!
# Laws of headers
-/
namespace RegistryConsole.Http

theorem Headers.get?_set_self (name value : String) (headers : Headers) :
    (headers.set name value).get? name = some value := by
  have hremoved : (headers.remove name).lookup name = none := Json.lookup_filter_self name headers
  rw [get?, set, List.lookup_append, hremoved, Json.lookup_cons_ite]
  simp

theorem Headers.get?_set_ne {name other : String} (h : other ≠ name) (value : String)
    (headers : Headers) : (headers.set name value).get? other = headers.get? other := by
  have hremoved : (headers.remove name).lookup other = headers.lookup other :=
    Json.lookup_filter_ne h headers
  rw [get?, set, List.lookup_append, hremoved, Json.lookup_cons_ite, if_neg h]
  simp [get?]

theorem textValue?_eq_some_iff {s text : String} :
    textValue? s = some text ↔ s = text ∧ ∀ c ∈ s.toList, isTextChar c = true := by
  rw [textValue?, Option.ite_none_right_eq_some, Option.some.injEq, List.all_eq_true, and_comm]

end RegistryConsole.Http
