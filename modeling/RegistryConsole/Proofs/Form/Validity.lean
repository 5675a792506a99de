import RegistryConsole.Form.Basic
import RegistryConsole.Proofs.Keys.Casing
import RegistryConsole.Proofs.Text.Blank
/-!
# Valid forms

What a valid form has in its fields, and what is sent of it. The checks of a form find all that is
not as required, one error for each such field and in the order of the fields
(`AuthorityForm.errors_breaches` and its like).
-/
namespace RegistryConsole

open Text Form

/-- What a valid form has in a field. -/
structure Requirement where
  field : String
  holds : Prop

/-- The errors are those of the fields that are not as required, one for each in its place. -/
inductive Requirement.Breaches : List Requirement → List FieldError → Prop where
  | nil : Breaches [] []
  | met {r : Requirement} {rest : List Requirement} {errors : List FieldError} (h : r.holds)
    (hrest : Breaches rest errors) : Breaches (r :: rest) errors
  | broken {r : Requirement} {rest : List Requirement} {e : FieldError} {errors : List FieldError}
    (h : ¬ r.holds) (hfield : e.field = r.field) (hrest : Breaches rest errors) :
    Breaches (r :: rest) (e :: errors)

theorem Requirement.Breaches.eq_nil_iff {requirements : List Requirement}
    {errors : List FieldError} (h : Breaches requirements errors) :
    errors = [] ↔ ∀ r ∈ requirements, r.holds := by
  induction h with
  | nil => exact ⟨nofun, fun _ => rfl⟩
  | met h hrest ih => rw [ih, List.forall_mem_cons, and_iff_right h]
  | broken h hfield hrest ih => exact ⟨nofun, fun hall => absurd (hall _ List.mem_cons_self) h⟩

/-- A check of a field that fails exactly where the field is not as required. -/
structure Requirement.Checked (r : Requirement) (check : String × Option Fault) : Prop where
  field : check.1 = r.field
  none_iff : check.2 = none ↔ r.holds

theorem FieldError.collect_breaches {requirements : List Requirement}
    {checks : List (String × Option Fault)}
    (h : List.Forall₂ Requirement.Checked requirements checks) :
    Requirement.Breaches requirements (collect checks) := by
  induction h with
  | nil => exact .nil
  | @cons r check rest checks hcheck hrest ih =>
      obtain ⟨field, fault⟩ := check
      obtain ⟨rfl, hiff⟩ := hcheck
      cases fault with
      | none => exact .met (hiff.mp rfl) ih
      | some fault =>
          refine .broken (fun hholds => ?_) rfl ih
          cases hiff.mpr hholds

namespace Form

/-- A text that is an address and begins like one of the web or of a file server, in letters of
whatever case. -/
def IsAddress (s : String) : Prop :=
  (∃ lead ∈ ["http://", "https://", "ftp://"], ∃ start rest,
    s.toList = start ++ rest ∧ start.map Char.toLower = lead.toList) ∧ (Url.ofString? s).isSome

private theorem startsWith_map_iff {f : Char → Char} {lead s : List Char} :
    startsWith lead (s.map f) = true ↔ ∃ start rest, s = start ++ rest ∧ start.map f = lead := by
  induction lead generalizing s with
  | nil =>
      refine ⟨fun _ => ⟨[], s, rfl, rfl⟩, fun _ => ?_⟩
      cases s <;> rfl
  | cons l ls ih =>
      cases s with
      | nil =>
          refine ⟨nofun, ?_⟩
          rintro ⟨start, rest, hs, hlead⟩
          rw [(List.append_eq_nil_iff.mp hs.symm).1] at hlead
          cases hlead
      | cons c s =>
          rw [startsWith, List.map_cons, stripLead?]
          split
          next hc =>
            rw [← startsWith, ih]
            constructor
            · rintro ⟨start, rest, rfl, rfl⟩
              exact ⟨c :: start, rest, rfl, by rw [hc]; rfl⟩
            · rintro ⟨start, rest, hs, hlead⟩
              cases start with
              | nil => cases hlead
              | cons c' start =>
                  exact ⟨start, rest, (List.cons.inj hs).2, (List.cons.inj hlead).2⟩
          next hc =>
            refine ⟨nofun, ?_⟩
            rintro ⟨start, rest, hs, hlead⟩
            cases start with
            | nil => cases hlead
            | cons c' start =>
                rw [(List.cons.inj hs).1] at hc
                exact absurd (List.cons.inj hlead).1.symm hc

theorem isUrl_iff {s : String} : isUrl s = true ↔ IsAddress s := by
  rw [isUrl, Bool.and_eq_true, IsAddress]
  refine and_congr_left' ?_
  simp only [urlLeads, List.any_cons, List.any_nil, Bool.or_false, Bool.or_eq_true,
    startsWith_map_iff, List.mem_cons, List.not_mem_nil, or_false, exists_eq_or_imp, exists_eq_left]

theorem required_eq_none_iff {s : String} : required s = none ↔ trim s ≠ "" := by
  rw [required, Ne, trim_eq_empty_iff]
  split
  next h => exact ⟨nofun, fun hne => absurd h hne⟩
  next h => exact ⟨fun _ => h, fun _ => rfl⟩

theorem minLength_eq_none_iff {bound : LengthBound} {s : String} :
    minLength bound s = none ↔ bound.admits s.toList.length = true := by
  rw [minLength]
  split
  next h => exact ⟨fun _ => h, fun _ => rfl⟩
  next h => exact ⟨nofun, fun hadmits => absurd hadmits h⟩

theorem optionalUrl_eq_none_iff {s : String} :
    optionalUrl s = none ↔ trim s = "" ∨ IsAddress s := by
  rw [optionalUrl, trim_eq_empty_iff, ← isUrl_iff, url]
  split
  next h => exact ⟨fun _ => .inl h, fun _ => rfl⟩
  next h =>
    rw [or_iff_right h]
    split
    next hurl => exact ⟨fun _ => hurl, fun _ => rfl⟩
    next hurl => exact ⟨nofun, fun hholds => absurd hholds hurl⟩

theorem required_orElse_eq_none_iff {bound : LengthBound} (hbound : bound.admits 0 = false)
    {s : String} : (required s <|> minLength bound (trim s)) = none ↔
      bound.admits (trim s).toList.length = true := by
  by_cases hblank : trim s = ""
  · have hrequired : required s ≠ none := mt required_eq_none_iff.mp (not_not_intro hblank)
    obtain ⟨fault, hfault⟩ := Option.ne_none_iff_exists'.mp hrequired
    rw [hfault, hblank]
    exact ⟨nofun, fun hadmits => absurd (hadmits.symm.trans hbound) Bool.noConfusion⟩
  · rw [required_eq_none_iff.mpr hblank]
    exact minLength_eq_none_iff

end Form

namespace AuthorityForm

def requirements (f : AuthorityForm) : List Requirement := [
  ⟨"name", 2 < (trim f.name).toList.length⟩,
  ⟨"policy_url", trim f.policyUrl = "" ∨ IsAddress f.policyUrl⟩]

theorem errors_breaches (f : AuthorityForm) : Requirement.Breaches f.requirements f.errors := by
  refine FieldError.collect_breaches (.cons ⟨rfl, ?_⟩ (.cons ⟨rfl, ?_⟩ .nil))
  · rw [required_orElse_eq_none_iff rfl, LengthBound.admits, decide_eq_true_eq]
  · exact optionalUrl_eq_none_iff

/-- What is sent of a form. -/
def body (f : AuthorityForm) : Json :=
  .ofMembers [("name", .string (trim f.name)), ("policy_url", .string (trim f.policyUrl)),
    ("is_public", .bool f.isPublic.isSome)]

theorem mapKeys_toNew (f : AuthorityForm) :
    Keys.mapKeys Keys.toSnake f.toNew.toJson = f.body := by
  have hname : Keys.toSnake "name" = "name" := by decide
  have hpolicy : Keys.toSnake "policyUrl" = "policy_url" := by decide
  have hpublic : Keys.toSnake "isPublic" = "is_public" := by decide
  rw [NewAuthority.toJson, Keys.mapKeys_ofMembers] <;>
    simp [Json.IsScalar, hname, hpolicy, hpublic, toNew, body]

end AuthorityForm

namespace KeyForm

def requirements (f : KeyForm) : List Requirement := [
  ⟨"key_id", 8 ≤ (trim f.keyId).toList.length⟩]

theorem errors_breaches (f : KeyForm) : Requirement.Breaches f.requirements f.errors := by
  refine FieldError.collect_breaches (.cons ⟨rfl, ?_⟩ .nil)
  rw [required_orElse_eq_none_iff rfl, LengthBound.admits, decide_eq_true_eq]

/-- A member with a trimmed text, unless nothing is left of the text. -/
def optionalMember (key text : String) : List (String × Json) :=
  if trim text = "" then [] else [(key, .string (trim text))]

/-- What is sent of a form. -/
def body (f : KeyForm) : Json :=
  .ofMembers ([("key_id", .string (trim f.keyId))] ++ optionalMember "ascii_armor" f.asciiArmor ++
    optionalMember "trust_signature" f.trustSignature)

private theorem toJson_eq (k : NewKey) :
    k.toJson = .ofMembers ([("keyId", .string k.keyId)] ++
      (k.asciiArmor.map fun text => ("asciiArmor", Json.string text)).toList ++
      (k.trustSignature.map fun text => ("trustSignature", Json.string text)).toList) := by
  obtain ⟨keyId, armor, trust⟩ := k
  cases armor <;> cases trust <;> rfl

private theorem optionalMember_eq (key text : String) :
    ((nonBlank? text).map fun text => (key, Json.string text)).toList =
      optionalMember key text := by
  rw [nonBlank?, optionalMember]
  simp only [← trim_eq_empty_iff]
  split <;> rfl

theorem mapKeys_toNew (f : KeyForm) : Keys.mapKeys Keys.toSnake f.toNew.toJson = f.body := by
  have hkey : Keys.toSnake "keyId" = "key_id" := by decide
  have harmor : Keys.toSnake "asciiArmor" = "ascii_armor" := by decide
  have htrust : Keys.toSnake "trustSignature" = "trust_signature" := by decide
  rw [toJson_eq, toNew, body, ← optionalMember_eq, ← optionalMember_eq]
  dsimp only
  cases nonBlank? f.asciiArmor <;> cases nonBlank? f.trustSignature <;>
    rw [Keys.mapKeys_ofMembers] <;> simp [Json.IsScalar, hkey, harmor, htrust]

end KeyForm

namespace ApiKeyForm

def requirements (f : ApiKeyForm) : List Requirement := [⟨"name", trim f.name ≠ ""⟩]

theorem errors_breaches (f : ApiKeyForm) : Requirement.Breaches f.requirements f.errors :=
  FieldError.collect_breaches (.cons ⟨rfl, required_eq_none_iff⟩ .nil)

/-- What is sent of a form. -/
def body (f : ApiKeyForm) : Json :=
  .ofMembers [("name", .string (trim f.name))]

theorem mapKeys_toNew (f : ApiKeyForm) : Keys.mapKeys Keys.toSnake f.toNew.toJson = f.body := by
  have hname : Keys.toSnake "name" = "name" := by decide
  rw [NewApiKey.toJson, Keys.mapKeys_ofMembers] <;> simp [Json.IsScalar, hname, toNew, body]

end ApiKeyForm

end RegistryConsole
