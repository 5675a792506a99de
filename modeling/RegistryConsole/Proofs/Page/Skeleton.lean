import Mathlib.Data.List.Forall2
import RegistryConsole.Page.ArtifactPage
import RegistryConsole.Page.Dashboard
import RegistryConsole.Page.Entry
import RegistryConsole.Page.SettingsPage
import RegistryConsole.Proofs.Page.Markup
/-!
# The skeleton of a page

A page is its literal text with escaped texts woven in. Two views of one shape, which answer alike
whatever a page asks of them, have one skeleton: the literal text is the same, and with it all
characters that delimit tags and quoted values, whatever texts the views hold
(`View.render_skeleton`).
-/
namespace RegistryConsole

namespace Markup

/-- The text of a page between the places where texts are put, from its start to its end. -/
def literals : Markup → List (List Char)
  | [] => [[]]
  | .literal source :: rest => (literals rest).modifyHead (source.toList ++ ·)
  | .content _ :: rest => [] :: literals rest

/-- The texts that are put into a page, in their order. -/
def contents (m : Markup) : List String :=
  m.filterMap fun
    | .literal _ => none
    | .content text => some text

/-- Literal text with texts put between its parts, each escaped. -/
def weave : List (List Char) → List String → List Char
  | part :: parts, text :: texts => part ++ escape text.toList ++ weave parts texts
  | parts, _ => parts.flatten

theorem literals_ne_nil (m : Markup) : literals m ≠ [] := by
  induction m with
  | nil => exact List.cons_ne_nil _ _
  | cons piece m ih =>
      cases piece with
      | literal source => exact fun h => ih (List.modifyHead_eq_nil_iff.mp h)
      | content text => exact List.cons_ne_nil _ _

theorem length_literals (m : Markup) : (literals m).length = (contents m).length + 1 := by
  induction m with
  | nil => rfl
  | cons piece m ih =>
      cases piece with
      | literal source => rw [literals, List.length_modifyHead, ih]; rfl
      | content text => rw [literals, List.length_cons, ih]; rfl

theorem weave_modifyHead (s : List Char) {parts : List (List Char)} (h : parts ≠ [])
    (texts : List String) :
    weave (parts.modifyHead (s ++ ·)) texts = s ++ weave parts texts := by
  obtain ⟨part, parts, rfl⟩ := List.exists_cons_of_ne_nil h
  cases texts with
  | nil => simp [weave]
  | cons text texts => simp [weave]

/-- A page is its literal text with the escaped texts between. -/
theorem chars_eq_weave (m : Markup) : m.chars = weave m.literals m.contents := by
  induction m with
  | nil => rfl
  | cons piece m ih =>
      cases piece with
      | literal source =>
          have hcontents : contents (.literal source :: m) = contents m := rfl
          rw [hcontents, literals, weave_modifyHead _ (literals_ne_nil m), ← ih]
          rfl
      | content text =>
          have hcontents : contents (.content text :: m) = text :: contents m := rfl
          rw [hcontents, literals, weave, ← ih]
          rfl

/-- The characters that begin and end tags and quoted values. -/
def delimiters : List Char := ['<', '>', '"']

theorem filter_escape (s : List Char) : (escape s).filter (· ∈ delimiters) = [] := by
  rw [List.filter_eq_nil_iff]
  intro c hc hdelimiter
  refine not_mem_escape ?_ s hc
  exact List.mem_append_left ['\x27'] (of_decide_eq_true hdelimiter)

theorem filter_weave (parts : List (List Char)) (texts : List String) :
    (weave parts texts).filter (· ∈ delimiters) = parts.flatten.filter (· ∈ delimiters) := by
  induction parts generalizing texts with
  | nil => cases texts <;> rfl
  | cons part parts ih =>
      cases texts with
      | nil => rfl
      | cons text texts =>
          rw [weave, List.filter_append, List.filter_append, filter_escape, ih, List.append_nil,
            List.flatten_cons, List.filter_append]

/-- A page without the texts that are put into it. -/
def outline (m : Markup) : Markup :=
  m.map fun
    | .literal source => .literal source
    | .content _ => .content ""

theorem outline_append (m m' : Markup) : (m ++ m').outline = m.outline ++ m'.outline :=
  List.map_append

theorem outline_lit (source : String) : (lit source).outline = lit source :=
  rfl

theorem outline_put (text : String) : (put text).outline = put "" :=
  rfl

theorem literals_outline (m : Markup) : m.outline.literals = m.literals := by
  induction m with
  | nil => rfl
  | cons piece m ih =>
      cases piece with
      | literal source => exact congrArg (List.modifyHead (source.toList ++ ·)) ih
      | content text => exact congrArg ([] :: ·) ih

theorem outline_only (condition : Bool) (m : Markup) :
    (only condition m).outline = only condition m.outline := by
  cases condition <;> rfl

theorem outline_each {α : Type} {alike : α → α → Prop} {markup markup' : α → Markup}
    {items items' : List α} (hitems : List.Forall₂ alike items items')
    (h : ∀ a b, alike a b → (markup a).outline = (markup' b).outline) :
    (each items markup).outline = (each items' markup').outline := by
  induction hitems with
  | nil => rfl
  | cons hhead _ ih =>
      simp only [each, List.flatMap_cons, outline_append] at ih ⊢
      rw [h _ _ hhead, ih]

theorem outline_each_of_length {α : Type} {markup markup' : α → Markup} {items items' : List α}
    (hlength : items.length = items'.length)
    (h : ∀ a b, (markup a).outline = (markup' b).outline) :
    (each items markup).outline = (each items' markup').outline :=
  outline_each (List.forall₂_of_length_eq_of_get hlength fun _ _ _ => trivial)
    fun a b (_ : True) => h a b

end Markup

namespace Page

open Markup

/-- Two outcomes that are both errors, or neither is and what they have is alike. -/
inductive SameArm {α : Type} (alike : α → α → Prop) : Except String α → Except String α → Prop
  | ok {a b : α} (h : alike a b) : SameArm alike (.ok a) (.ok b)
  | error (message message' : String) : SameArm alike (.error message) (.error message')

def SameLength {α : Type} (items items' : List α) : Prop :=
  items.length = items'.length

/-- What the page of an artifact asks of it has the same answers. -/
structure ArtifactView.SameShape (v w : ArtifactView) : Prop where
  provider : v.provider.isEmpty = w.provider.isEmpty
  versions : List.Forall₂ (fun a b => a.selected = b.selected) v.versions w.versions

/-- What the settings page asks of an authority has the same answers. -/
structure SameArticle (a b : Authority) : Prop where
  isPublic : a.isPublic = b.isPublic
  policy : a.policyUrl.isEmpty = b.policyUrl.isEmpty
  keys : SameLength a.keys b.keys
  apiKeys : SameLength a.apiKeys b.apiKeys

/-- What one of the pages shows. -/
inductive View where
  | dashboard (page : Dashboard)
  | login (page : Login)
  | settings (page : SettingsPage)
  | artifact (page : ArtifactPage)
  | notFound (page : NotFound)
  | forbidden (page : Forbidden)

def View.markup : View → Markup
  | dashboard page => page.markup
  | login page => page.markup
  | settings page => page.markup
  | artifact page => page.markup
  | notFound page => page.markup
  | forbidden page => page.markup

/-- Two views of one page that have the same answers to what it asks of them. Their texts have
nothing to do with each other. -/
inductive View.SameShape : View → View → Prop
  | dashboard {p q : Dashboard} (artifacts : SameArm SameLength p.artifacts q.artifacts)
      (authorities : SameArm SameLength p.authorities q.authorities) :
      SameShape (.dashboard p) (.dashboard q)
  | login {p q : Login} (providers : SameLength p.providers q.providers) :
      SameShape (.login p) (.login q)
  | settings {p q : SettingsPage} (errors : SameLength p.errors q.errors)
      (notice : p.notice.isEmpty = q.notice.isEmpty)
      (authorities : SameArm (List.Forall₂ SameArticle) p.authorities q.authorities) :
      SameShape (.settings p) (.settings q)
  | artifact {p q : ArtifactPage} (artifact : SameArm ArtifactView.SameShape p.artifact q.artifact) :
      SameShape (.artifact p) (.artifact q)
  | notFound (p q : NotFound) : SameShape (.notFound p) (.notFound q)
  | forbidden (p q : Forbidden) : SameShape (.forbidden p) (.forbidden q)

theorem isEmpty_eq_of_sameLength {α : Type} {items items' : List α}
    (h : SameLength items items') : items.isEmpty = items'.isEmpty := by
  rw [Bool.eq_iff_iff, List.isEmpty_iff_length_eq_zero, List.isEmpty_iff_length_eq_zero, h]

theorem outline_layout (title account content : Markup) :
    (layout title account content).outline =
      layout title.outline account.outline content.outline := by
  simp only [layout, outline_append, outline_lit]

theorem outline_account (userName : String) : (account userName).outline = account "" :=
  rfl

theorem outline_listOr {α : Type} {none : Markup} {line : α → Markup} {items items' : List α}
    (hlength : SameLength items items') (hline : ∀ a b, (line a).outline = (line b).outline) :
    (listOr none items line).outline = (listOr none items' line).outline := by
  rw [listOr, listOr, isEmpty_eq_of_sameLength hlength]
  split_ifs
  · rfl
  · simp only [outline_append, outline_each_of_length hlength hline]

theorem Dashboard.outline_artifactList {p q : Dashboard}
    (h : SameArm SameLength p.artifacts q.artifacts) :
    p.artifactList.outline = q.artifactList.outline := by
  rw [artifactList, artifactList]
  generalize p.artifacts = a, q.artifacts = b at h
  cases h with
  | ok h => exact outline_listOr h fun _ _ => rfl
  | error message message' => rfl

theorem Dashboard.outline_authorityList {p q : Dashboard}
    (h : SameArm SameLength p.authorities q.authorities) :
    p.authorityList.outline = q.authorityList.outline := by
  rw [authorityList, authorityList]
  generalize p.authorities = a, q.authorities = b at h
  cases h with
  | ok h => exact outline_listOr h fun _ _ => rfl
  | error message message' => rfl

theorem Dashboard.outline_markup {p q : Dashboard}
    (hartifacts : SameArm SameLength p.artifacts q.artifacts)
    (hauthorities : SameArm SameLength p.authorities q.authorities) :
    p.markup.outline = q.markup.outline := by
  simp only [markup, outline_layout, outline_account, outline_append, outline_lit, outline_put,
    outline_artifactList hartifacts, outline_authorityList hauthorities]

theorem Login.outline_markup {p q : Login} (hproviders : SameLength p.providers q.providers) :
    p.markup.outline = q.markup.outline := by
  have hlink (a b : ProviderLink) : a.markup.outline = b.markup.outline := rfl
  simp only [markup, outline_layout, outline_append, outline_lit, outline_put,
    outline_each_of_length hproviders hlink]

theorem VersionLink.outline_markup {a b : VersionLink} (h : a.selected = b.selected) :
    a.markup.outline = b.markup.outline := by
  rw [markup, markup, h]
  split_ifs <;> rfl

theorem ArtifactView.outline_markup {v w : ArtifactView} (h : v.SameShape w) :
    v.markup.outline = w.markup.outline := by
  have hversions := outline_each h.versions fun _ _ => VersionLink.outline_markup
  simp only [markup, outline_append, outline_lit, outline_put, outline_only, h.provider, hversions]

theorem ArtifactPage.outline_markup {p q : ArtifactPage}
    (h : SameArm ArtifactView.SameShape p.artifact q.artifact) :
    p.markup.outline = q.markup.outline := by
  simp only [markup, outline_layout, outline_account, outline_append, outline_lit, outline_put]
  generalize p.artifact = a, q.artifact = b at h
  cases h with
  | ok h => simp only [ArtifactView.outline_markup h]
  | error message message' => rfl

theorem outline_keyBlock {a b : Authority} (h : SameLength a.keys b.keys) :
    (keyBlock a).outline = (keyBlock b).outline := by
  have hitem (k k' : Key) : (keyItem a.id k).outline = (keyItem b.id k').outline := rfl
  simp only [keyBlock, outline_append, outline_lit, outline_put, outline_each_of_length h hitem]

theorem outline_apiKeyBlock {a b : Authority} (h : SameLength a.apiKeys b.apiKeys) :
    (apiKeyBlock a).outline = (apiKeyBlock b).outline := by
  have hitem (k k' : ApiKey) : (apiKeyItem a.id k).outline = (apiKeyItem b.id k').outline := rfl
  simp only [apiKeyBlock, outline_append, outline_lit, outline_put, outline_each_of_length h hitem]

theorem outline_authorityArticle {a b : Authority} (h : SameArticle a b) :
    (authorityArticle a).outline = (authorityArticle b).outline := by
  simp only [authorityArticle, outline_append, outline_lit, outline_put, outline_only, h.isPublic,
    h.policy, outline_keyBlock h.keys, outline_apiKeyBlock h.apiKeys]

theorem outline_errorList {errors errors' : List FieldError} (h : SameLength errors errors') :
    (errorList errors).outline = (errorList errors').outline := by
  have hline (e e' : FieldError) : (errorLine e).outline = (errorLine e').outline := rfl
  simp only [errorList, outline_append, outline_lit, outline_each_of_length h hline]

theorem outline_noticeLine (notice : String) : (noticeLine notice).outline = noticeLine "" :=
  rfl

theorem SettingsPage.outline_authorityBlock {p q : SettingsPage}
    (h : SameArm (List.Forall₂ SameArticle) p.authorities q.authorities) :
    p.authorityBlock.outline = q.authorityBlock.outline := by
  rw [authorityBlock, authorityBlock]
  generalize p.authorities = a, q.authorities = b at h
  cases h with
  | ok h => simp only [outline_append, outline_each h fun _ _ => outline_authorityArticle]
  | error message message' => rfl

theorem SettingsPage.outline_markup {p q : SettingsPage}
    (herrors : SameLength p.errors q.errors) (hnotice : p.notice.isEmpty = q.notice.isEmpty)
    (hauthorities : SameArm (List.Forall₂ SameArticle) p.authorities q.authorities) :
    p.markup.outline = q.markup.outline := by
  simp only [markup, outline_layout, outline_account, outline_append, outline_lit, outline_put,
    outline_only, outline_noticeLine, hnotice, isEmpty_eq_of_sameLength herrors,
    outline_errorList herrors, outline_authorityBlock hauthorities]

theorem View.outline_markup {v w : View} (h : v.SameShape w) :
    v.markup.outline = w.markup.outline := by
  cases h with
  | dashboard artifacts authorities => exact Dashboard.outline_markup artifacts authorities
  | login providers => exact Login.outline_markup providers
  | settings errors notice authorities =>
      exact SettingsPage.outline_markup errors notice authorities
  | artifact artifact => exact ArtifactPage.outline_markup artifact
  | notFound p q => rfl
  | forbidden p q => rfl

/-- Views of one shape have the same literal text, with their own escaped texts in the same places
of it, and the same delimiters. -/
theorem View.render_skeleton {v w : View} (h : v.SameShape w) :
    (∃ parts : List (List Char), ∀ u ∈ [v, w],
      u.markup.literals = parts ∧ parts.length = u.markup.contents.length + 1 ∧
        u.markup.render.toList = weave parts u.markup.contents) ∧
      v.markup.render.toList.filter (· ∈ delimiters) =
        w.markup.render.toList.filter (· ∈ delimiters) := by
  have hrender (u : View) :
      u.markup.render.toList = weave u.markup.literals u.markup.contents := by
    rw [render, String.toList_ofList, chars_eq_weave]
  have hliterals : v.markup.literals = w.markup.literals := by
    rw [← literals_outline v.markup, View.outline_markup h, literals_outline]
  constructor
  · refine ⟨w.markup.literals, fun u hu => ?_⟩
    have hsame : u.markup.literals = w.markup.literals := by
      obtain rfl | hu := List.mem_cons.mp hu
      · exact hliterals
      · rw [List.mem_singleton.mp hu]
    exact ⟨hsame, hsame ▸ length_literals u.markup, hsame ▸ hrender u⟩
  · rw [hrender, hrender, filter_weave, filter_weave, hliterals]

/-- No version of an artifact brings a script into its page. -/
theorem View.render_skeleton_script :
    let page (name version url : String) : View := .artifact ⟨name, "Acme", "jane", .ok
      ⟨name, "Provider", "acme", "", version, [⟨version, url, false⟩], "now"⟩⟩
    (page "aws" "1.0.0" "/acme/aws").markup.render.toList.filter (· ∈ delimiters) =
      (page "</title>" "<script>" "\"><b>").markup.render.toList.filter (· ∈ delimiters) :=
  (View.render_skeleton (.artifact (.ok ⟨rfl, .cons rfl .nil⟩))).2

end Page

end RegistryConsole
