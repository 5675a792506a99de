import RegistryConsole.Envelope.Basic
import Mathlib.Data.List.Basic
/-!
# Details of failures

What the details of a failed call are, said of the payload alone: the texts of a list under `errors`
or of the payload itself, the one text, nothing for null, or the JSON text of anything else.
-/
namespace RegistryConsole.Envelope

/-- A list of texts, not an empty one, stands under `errors`. -/
def HasErrors (payload : Json) (texts : List String) : Prop :=
  texts ≠ [] ∧ payload.get? "errors" = some (.strings texts)

/-- The details that a payload tells. -/
inductive IsDetails : Json → List String → Prop where
  | errors {payload : Json} {texts : List String} (h : HasErrors payload texts) :
      IsDetails payload texts
  | texts {texts : List String} (hne : texts ≠ []) : IsDetails (.strings texts) texts
  | text (s : String) : IsDetails (.string s) [s]
  | null : IsDetails .null []
  | other {payload : Json} (herrors : ∀ texts, ¬ HasErrors payload texts)
      (htexts : ∀ texts, texts ≠ [] → payload ≠ .strings texts)
      (htext : ∀ s, payload ≠ .string s) (hnull : payload ≠ .null) :
      IsDetails payload [payload.text]

theorem mapM_asString?_eq_some {items : List Json} {texts : List String} :
    items.mapM Json.asString? = some texts ↔ items = texts.map .string := by
  induction items generalizing texts with
  | nil => cases texts <;> simp
  | cons v rest ih =>
      constructor
      · intro h
        rw [List.mapM_cons] at h
        obtain ⟨s, hs, h⟩ := Option.bind_eq_some_iff.mp h
        obtain ⟨tail, htail, h⟩ := Option.bind_eq_some_iff.mp h
        obtain rfl : s :: tail = texts := Option.some.inj h
        obtain rfl : v = .string s := by cases v <;> simp_all [Json.asString?]
        rw [List.map_cons, ih.mp htail]
      · intro h
        obtain _ | ⟨s, tail⟩ := texts
        · exact absurd h (List.cons_ne_nil _ _)
        · obtain ⟨rfl, hrest⟩ := List.cons.inj h
          rw [List.mapM_cons, ih.mpr hrest]
          rfl

theorem stringArray?_eq_some {v : Json} {texts : List String} :
    stringArray? v = some texts ↔ texts ≠ [] ∧ v = .strings texts := by
  cases v with
  | array items =>
      cases items with
      | nil => cases texts <;> simp [stringArray?, Json.strings]
      | cons item rest =>
          rw [stringArray?, mapM_asString?_eq_some, Json.strings, Json.array.injEq]
          · refine ⟨fun h => ⟨?_, h⟩, And.right⟩
            rintro rfl
            exact absurd h (List.cons_ne_nil _ _)
          · exact List.cons_ne_nil _ _
  | null | bool | number | string | object => simp [stringArray?, Json.strings]

theorem errors_eq_some {payload : Json} {texts : List String} :
    (payload.get? "errors").bind stringArray? = some texts ↔ HasErrors payload texts := by
  rw [Option.bind_eq_some_iff, HasErrors]
  constructor
  · rintro ⟨v, hv, h⟩
    obtain ⟨hne, rfl⟩ := stringArray?_eq_some.mp h
    exact ⟨hne, hv⟩
  · rintro ⟨hne, hv⟩
    exact ⟨_, hv, stringArray?_eq_some.mpr ⟨hne, rfl⟩⟩

theorem isDetails_iff {payload : Json} {details : List String} :
    IsDetails payload details ↔ detailsOf payload = details := by
  constructor
  · intro h
    unfold detailsOf
    cases h with
    | errors h => rw [errors_eq_some.mpr h]
    | texts hne =>
        rw [stringArray?_eq_some.mpr ⟨hne, rfl⟩]
        rfl
    | text s => rfl
    | null => rfl
    | other herrors htexts htext hnull =>
        have hunder : (payload.get? "errors").bind stringArray? = none := by
          rw [Option.eq_none_iff_forall_ne_some]
          exact fun texts h => herrors texts (errors_eq_some.mp h)
        have hself : stringArray? payload = none := by
          rw [Option.eq_none_iff_forall_ne_some]
          intro texts h
          obtain ⟨hne, heq⟩ := stringArray?_eq_some.mp h
          exact htexts texts hne heq
        rw [hunder, hself]
        cases payload with
        | null => exact absurd rfl hnull
        | string s => exact absurd rfl (htext s)
        | bool | number | array | object => rfl
  · rintro rfl
    unfold detailsOf
    split
    next details h => exact .errors (errors_eq_some.mp h)
    next hunder =>
      split
      next details h =>
        obtain ⟨hne, rfl⟩ := stringArray?_eq_some.mp h
        exact .texts hne
      next hself =>
        split
        · exact .text _
        · exact .null
        next htext hnull =>
          refine .other (fun texts h => ?_) (fun texts hne h => ?_) htext hnull
          · rw [errors_eq_some.mpr h] at hunder
            cases hunder
          · rw [stringArray?_eq_some.mpr ⟨hne, h⟩] at hself
            cases hself

end RegistryConsole.Envelope
