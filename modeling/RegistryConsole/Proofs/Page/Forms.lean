import RegistryConsole.Page.SettingsPage
import RegistryConsole.Proofs.Page.Markup
import RegistryConsole.Proofs.Route.SettingsPages
/-!
# Forms of the settings page

The forms that a page opens are found in its text, wherever the tag of a form begins. Those of the
settings page post to the paths of what they are shown with, whatever texts stand between them
(`SettingsPage.markup_offers`).
-/
namespace RegistryConsole

open Text

namespace Page

def formStart : List Char := ['<', 'f', 'o', 'r', 'm']

/-- What is written in the tags that open forms, in their order. -/
def formsIn : List Char → List (List Char)
  | [] => []
  | c :: rest =>
    match stripLead? formStart (c :: rest) with
    | some tag => tag.takeWhile (· ≠ '>') :: formsIn rest
    | none => formsIn rest

/-- Two texts agree as far as both of them go. -/
def agree : List Char → List Char → Bool
  | c :: s, d :: t => c = d && agree s t
  | _, _ => true

/-- The forms of a text that ends neither in the tag of a form nor in what may become one. -/
def wholeForms? : List Char → Option (List (List Char))
  | [] => some []
  | c :: rest =>
    if agree formStart (c :: rest) then
      ((stripLead? formStart (c :: rest)).filter (·.contains '>')).bind fun tag =>
        (wholeForms? rest).map (tag.takeWhile (· ≠ '>') :: ·)
    else wholeForms? rest

/-- The one tag of a form that begins in the text is its last, and has this much of it. -/
def startsTag (start : List Char) : List Char → Bool
  | [] => false
  | c :: rest => c :: rest == formStart ++ start ||
    !agree formStart (c :: rest) && startsTag start rest

theorem stripLead?_of_not_agree {lead s : List Char} (h : agree lead s = false) (t : List Char) :
    stripLead? lead (s ++ t) = none := by
  induction lead generalizing s with
  | nil => cases h
  | cons l lead ih =>
      cases s with
      | nil => cases h
      | cons c s =>
          rw [agree, Bool.and_eq_false_iff, decide_eq_false_iff_not] at h
          rw [List.cons_append, stripLead?]
          split
          next hc => exact ih (h.resolve_left (not_not_intro hc))
          next => rfl

theorem stripLead?_append {lead s rest : List Char} (h : stripLead? lead s = some rest)
    (t : List Char) : stripLead? lead (s ++ t) = some (rest ++ t) := by
  rw [stripLead?_eq_some_iff] at h ⊢
  rw [h, List.append_assoc]

private theorem takeWhile_append_of_not_mem {s : List Char} (h : '>' ∉ s) (t : List Char) :
    (s ++ t).takeWhile (· ≠ '>') = s ++ t.takeWhile (· ≠ '>') := by
  refine List.takeWhile_append_of_pos fun c hc => decide_eq_true ?_
  rintro rfl
  exact h hc

private theorem takeWhile_append_of_mem {s : List Char} (h : '>' ∈ s) (t : List Char) :
    (s ++ t).takeWhile (· ≠ '>') = s.takeWhile (· ≠ '>') := by
  induction s with
  | nil => cases h
  | cons c s ih =>
      rw [List.cons_append, List.takeWhile_cons, List.takeWhile_cons]
      split
      next hc =>
        obtain rfl | hs := List.mem_cons.mp h
        · cases hc
        · rw [ih hs]
      next => rfl

private theorem formsIn_of_not_agree {c : Char} {s : List Char}
    (h : agree formStart (c :: s) = false) (t : List Char) :
    formsIn (c :: s ++ t) = formsIn (s ++ t) := by
  have hnone := stripLead?_of_not_agree h t
  rw [List.cons_append] at hnone ⊢
  rw [formsIn, hnone]

theorem formsIn_of_wholeForms? {s : List Char} {forms : List (List Char)}
    (h : wholeForms? s = some forms) (t : List Char) :
    formsIn (s ++ t) = forms ++ formsIn t := by
  induction s generalizing forms with
  | nil =>
      obtain rfl : [] = forms := Option.some.inj h
      rfl
  | cons c s ih =>
      rw [wholeForms?] at h
      split at h
      next =>
        obtain ⟨tag, htag, h⟩ := Option.bind_eq_some_iff.mp h
        obtain ⟨rest, hrest, rfl⟩ := Option.map_eq_some_iff.mp h
        obtain ⟨hstrip, hclosed⟩ := Option.filter_eq_some_iff.mp htag
        have hwhole := stripLead?_append hstrip t
        rw [List.cons_append] at hwhole ⊢
        rw [formsIn, hwhole, ih hrest]
        exact congrArg (· :: (rest ++ formsIn t))
          (takeWhile_append_of_mem (List.contains_iff_mem.mp hclosed) t)
      next hagree => rw [formsIn_of_not_agree (eq_false_of_ne_true hagree), ih h]

theorem wholeForms?_of_not_mem {s : List Char} (h : '<' ∉ s) : wholeForms? s = some [] := by
  induction s with
  | nil => rfl
  | cons c s ih =>
      rw [List.mem_cons, not_or] at h
      have hagree : agree formStart (c :: s) = false := by
        rw [formStart, agree,
          decide_eq_false h.1, Bool.false_and]
      rw [wholeForms?, hagree, if_neg Bool.false_ne_true, ih h.2]

theorem formsIn_of_startsTag {start s : List Char} (hstart : '<' ∉ start ∧ '>' ∉ start)
    (h : startsTag start s = true) (t : List Char) :
    formsIn (s ++ t) = (start ++ t.takeWhile (· ≠ '>')) :: formsIn t := by
  induction s with
  | nil => cases h
  | cons c s ih =>
      rw [startsTag, Bool.or_eq_true, beq_iff_eq, Bool.and_eq_true, Bool.not_eq_true'] at h
      obtain hs | ⟨hagree, hrest⟩ := h
      · have htag : stripLead? formStart ('<' :: ("form".toList ++ start ++ t)) =
            some (start ++ t) := by
          rw [List.append_assoc]
          rfl
        have hquiet : '<' ∉ "form".toList ++ start := by simp [hstart.1]
        have hcons : formStart ++ start ++ t = '<' :: ("form".toList ++ start ++ t) := rfl
        rw [hs, hcons, formsIn, htag, formsIn_of_wholeForms? (wholeForms?_of_not_mem hquiet)]
        exact congrArg (· :: formsIn t) (takeWhile_append_of_not_mem hstart.2 t)
      · rw [formsIn_of_not_agree hagree, ih hrest]

end Page

namespace Markup

open Page

/-- The forms of a page or of a part of one, whatever else the page has behind it. -/
def Offers (m : Markup) (forms : List (List Char)) : Prop :=
  ∀ t, formsIn (m.chars ++ t) = forms ++ formsIn t

/-- Markup that ends within the tag of a form, with the forms before it and what there is of the
tag. -/
def Opens (m : Markup) (forms : List (List Char)) (tag : List Char) : Prop :=
  ∀ t, formsIn (m.chars ++ t) = forms ++ (tag ++ t.takeWhile (· ≠ '>')) :: formsIn t

variable {m m' : Markup} {forms forms' : List (List Char)} {tag : List Char}

namespace Offers

theorem formsIn_eq (h : m.Offers forms) : formsIn m.chars = forms := by
  have hm := h []
  rwa [List.append_nil, formsIn, List.append_nil] at hm

theorem append (h : m.Offers forms) (h' : m'.Offers forms') :
    Markup.Offers (m ++ m') (forms ++ forms') := by
  intro t
  rw [chars_append, List.append_assoc, h, h', List.append_assoc]

theorem quiet (h : m.Offers forms) (h' : m'.Offers []) : Markup.Offers (m ++ m') forms := by
  have happend := h.append h'
  rwa [List.append_nil] at happend

theorem behind (h : m.Offers []) (h' : m'.Offers forms) : Markup.Offers (m ++ m') forms :=
  h.append h'

theorem lit {s : List Char} (h : wholeForms? s = some forms) :
    (lit (String.ofList s)).Offers forms := by
  intro t
  rw [chars_lit, String.toList_ofList, formsIn_of_wholeForms? h]

theorem pieces {source source' : String}
    (h : Markup.Offers (m ++ Markup.lit source ++ Markup.lit source') forms) :
    Markup.Offers (m ++ Markup.lit (source ++ source')) forms := by
  have hchars : (m ++ Markup.lit (source ++ source')).chars =
      (m ++ Markup.lit source ++ Markup.lit source').chars := by
    simp only [chars_append, chars_lit, String.toList_append, List.append_assoc]
  intro t
  rw [hchars, h]

theorem lit_pieces {source source' : String}
    (h : Markup.Offers (Markup.lit source ++ Markup.lit source') forms) :
    (Markup.lit (source ++ source')).Offers forms :=
  pieces (m := []) h

/-- A text that is put into a page opens no form. -/
theorem put (text : String) : (put text).Offers [] := by
  intro t
  rw [chars_put, formsIn_of_wholeForms? (wholeForms?_of_not_mem (not_mem_escape (by decide) _))]

theorem each {α : Type} {markup : α → Markup} {forms : α → List (List Char)}
    (h : ∀ item, (markup item).Offers (forms item)) (items : List α) :
    (each items markup).Offers (items.flatMap forms) := by
  induction items with
  | nil => exact fun _ => rfl
  | cons item items ih => exact (h item).append ih

theorem only {condition : Bool} (h : m.Offers []) : (only condition m).Offers [] := by
  cases condition with
  | false => exact fun _ => rfl
  | true => exact h

end Offers

namespace Opens

theorem start {s : List Char} (h : m.Offers forms) (htag : '<' ∉ tag ∧ '>' ∉ tag)
    (hstarts : startsTag tag s = true) : Markup.Opens (m ++ lit (String.ofList s)) forms tag := by
  intro t
  rw [chars_append, chars_lit, String.toList_ofList, List.append_assoc, h,
    formsIn_of_startsTag htag hstarts]

private theorem append (h : m.Opens forms tag) (hopen : '<' ∉ m'.chars) (hclose : '>' ∉ m'.chars) :
    Markup.Opens (m ++ m') forms (tag ++ m'.chars) := by
  intro t
  rw [chars_append, List.append_assoc, h,
    formsIn_of_wholeForms? (wholeForms?_of_not_mem hopen), takeWhile_append_of_not_mem hclose,
    List.append_assoc, List.nil_append]

theorem lit {source : String} (h : m.Opens forms tag)
    (hsource : '<' ∉ source.toList ∧ '>' ∉ source.toList) :
    Markup.Opens (m ++ lit source) forms (tag ++ source.toList) := by
  rw [← chars_lit] at hsource ⊢
  exact h.append hsource.1 hsource.2

theorem put (h : m.Opens forms tag) (text : String) :
    Markup.Opens (m ++ put text) forms (tag ++ escape text.toList) := by
  rw [← chars_put]
  refine h.append ?_ ?_ <;>
    rw [chars_put] <;> exact not_mem_escape (by decide) _

end Opens

theorem Offers.close {s finish : List Char} (h : m.Opens forms tag) (hclose : '>' ∈ s)
    (hfinish : s.takeWhile (· ≠ '>') = finish) (hquiet : wholeForms? s = some []) :
    Markup.Offers (m ++ Markup.lit (String.ofList s)) (forms ++ [tag ++ finish]) := by
  intro t
  rw [chars_append, chars_lit, String.toList_ofList, List.append_assoc, h,
    formsIn_of_wholeForms? hquiet, takeWhile_append_of_mem hclose, hfinish, List.append_assoc,
    List.singleton_append]
  rfl

end Markup

namespace Page

def tagStart : String := " method=\"post\" action=\""

/-- The tag of a form that posts to a path. -/
def postingTo (path : List Char) : List Char :=
  tagStart.toList ++ path ++ ['"']

end Page

/-- The tag of a form, the identifiers in its path written as texts of a page are. -/
def Control.tag (c : Control String) : List Char :=
  Page.postingTo (c.map fun name => Markup.escape name.toList).path

namespace Authority

/-- What the forms with the signing keys of an authority act on. -/
def keyControls (a : Authority) : List (Control String) :=
  a.keys.map (fun k => .deleteKey a.id k.id) ++ [.createKey a.id]

def apiKeyControls (a : Authority) : List (Control String) :=
  a.apiKeys.map (fun k => .deleteApiKey a.id k.id) ++ [.createApiKey a.id]

/-- What the forms with an authority act on, in their order. -/
def controls (a : Authority) : List (Control String) :=
  [.deleteAuthority a.id] ++ a.keyControls ++ a.apiKeyControls

end Authority

namespace Page

open Markup

/-- How all tags begin that have an identifier in their path. -/
private def belowStart : List Char :=
  tagStart.toList ++ ('/' :: ("settings".toList ++ ['/'] ++ ("authorities".toList ++ ['/'])))

private theorem belowStart_plain : '<' ∉ belowStart ∧ '>' ∉ belowStart := by
  decide

private theorem postingTo_below (part : List Char) (parts : List (List Char)) :
    postingTo ('/' :: join ['/'] ("settings".toList :: "authorities".toList :: part :: parts)) =
      belowStart ++ join ['/'] (part :: parts) ++ ['"'] := by
  rw [postingTo, belowStart, join_cons_cons, join_cons_cons]
  simp only [List.append_assoc, List.cons_append, List.nil_append]

section Tags

variable {authority items key last middle finish : List Char}

private theorem tag_of_one (hfinish : finish = '/' :: (last ++ ['"'])) :
    postingTo ('/' :: join ['/'] ["settings".toList, "authorities".toList, authority, last]) =
      belowStart ++ authority ++ finish := by
  rw [postingTo_below, join_cons_cons, join, hfinish]
  simp only [List.append_assoc, List.cons_append]

private theorem tag_of_two (hmiddle : middle = '/' :: (items ++ ['/']))
    (hfinish : finish = '/' :: (last ++ ['"'])) :
    postingTo ('/' :: join ['/']
      ["settings".toList, "authorities".toList, authority, items, key, last]) =
      belowStart ++ authority ++ middle ++ key ++ finish := by
  rw [postingTo_below, join_cons_cons, join_cons_cons, join_cons_cons, join, hmiddle, hfinish]
  simp only [List.append_assoc, List.cons_append, List.nil_append]

end Tags

private theorem delete_finish : "/delete\"".toList = '/' :: ("delete".toList ++ ['"']) := by
  decide

theorem keyItem_offers (authority : String) (k : Key) :
    (keyItem authority k).Offers [(Control.deleteKey authority k.id).tag] := by
  have hmiddle : "/keys/".toList = '/' :: ("keys".toList ++ ['/']) := by decide
  have htag : (Control.deleteKey authority k.id).tag = _ := tag_of_two hmiddle delete_finish
  rw [htag, keyItem, ← List.nil_append [_]]
  refine .pieces (.quiet (.close (.put (.lit (.put (.start (.quiet (.lit ?_) (.put _))
    belowStart_plain ?_) _) ?_) _) ?_ ?_ ?_) (.lit ?_))
  all_goals decide

theorem apiKeyItem_offers (authority : String) (k : ApiKey) :
    (apiKeyItem authority k).Offers [(Control.deleteApiKey authority k.id).tag] := by
  have hmiddle : "/api-keys/".toList = '/' :: ("api-keys".toList ++ ['/']) := by decide
  have htag : (Control.deleteApiKey authority k.id).tag = _ := tag_of_two hmiddle delete_finish
  rw [htag, apiKeyItem, ← List.nil_append [_]]
  refine .pieces (.quiet (.close (.put (.lit (.put (.start (.quiet (.lit ?_) (.put _))
    belowStart_plain ?_) _) ?_) _) ?_ ?_ ?_) (.lit ?_))
  all_goals decide

theorem keyBlock_offers (a : Authority) : (keyBlock a).Offers (a.keyControls.map Control.tag) := by
  have hfinish : "/keys\"".toList = '/' :: ("keys".toList ++ ['"']) := by decide
  have htag : (Control.createKey a.id).tag = _ := tag_of_one hfinish
  have hitems := Offers.each (keyItem_offers a.id) a.keys
  rw [← List.map_eq_flatMap] at hitems
  rw [Authority.keyControls, List.map_append, List.map_map, List.map_singleton, htag, keyBlock]
  refine .pieces (.quiet (.pieces (.quiet (.pieces (.quiet (.close (.put (.start
    (.behind (.lit ?_) hitems) belowStart_plain ?_) _) ?_ ?_ ?_) (.lit ?_))) (.lit ?_))) (.lit ?_))
  all_goals decide

theorem apiKeyBlock_offers (a : Authority) :
    (apiKeyBlock a).Offers (a.apiKeyControls.map Control.tag) := by
  have hfinish : "/api-keys\"".toList = '/' :: ("api-keys".toList ++ ['"']) := by decide
  have htag : (Control.createApiKey a.id).tag = _ := tag_of_one hfinish
  have hitems := Offers.each (apiKeyItem_offers a.id) a.apiKeys
  rw [← List.map_eq_flatMap] at hitems
  rw [Authority.apiKeyControls, List.map_append, List.map_map, List.map_singleton, htag,
    apiKeyBlock]
  refine .pieces (.quiet (.close (.put (.start (.behind (.lit ?_) hitems) belowStart_plain ?_) _)
    ?_ ?_ ?_) (.lit ?_))
  all_goals decide

theorem authorityArticle_offers (a : Authority) :
    (authorityArticle a).Offers (a.controls.map Control.tag) := by
  have hfinish : "/delete\"".toList = '/' :: ("delete".toList ++ ['"']) := by decide
  have htag : (Control.deleteAuthority a.id).tag = _ := tag_of_one hfinish
  rw [Authority.controls, List.map_append, List.map_append, List.map_singleton, htag,
    authorityArticle, ← List.nil_append [_]]
  refine .quiet (.append (.append (.pieces (.quiet (.close (.put (.start ?name belowStart_plain
    ?_) _) ?_ ?_ ?_) (.lit ?_))) (keyBlock_offers a)) (apiKeyBlock_offers a)) (.lit ?_)
  case name =>
    refine .quiet (.quiet (.quiet (.quiet (.quiet (.lit ?_) (.put _)) (.lit ?_)) (.only (.lit ?_)))
      (.lit ?_)) (.only (.quiet (.quiet (.lit ?_) (.put _)) (.lit ?_))) <;>
      decide
  all_goals decide

theorem newAuthorityForm_offers : newAuthorityForm.Offers [Control.createAuthority.tag] := by
  rw [newAuthorityForm]
  refine .lit_pieces (.quiet (.lit_pieces (.quiet (.lit_pieces (.quiet (.lit_pieces (.quiet
    (.lit_pieces (.behind (.lit ?_) (.lit ?_))) (.lit ?_))) (.lit ?_))) (.lit ?_))) (.lit ?_))
  all_goals decide

theorem errorList_offers (errors : List FieldError) : (errorList errors).Offers [] := by
  have hlines : (each errors errorLine).Offers (errors.flatMap fun _ => []) := by
    refine .each (fun e => ?_) errors
    rw [errorLine]
    refine .quiet (.quiet (.quiet (.quiet (.lit ?_) (.put _)) (.lit ?_)) (.put _)) (.lit ?_) <;>
      decide
  rw [List.flatMap_eq_nil_iff.mpr fun _ _ => rfl] at hlines
  rw [errorList]
  refine .quiet (.quiet (.lit ?_) hlines) (.lit ?_) <;> decide

variable {p : SettingsPage}

theorem authorityBlock_offers {list : List Authority} (h : p.authorities = .ok list) :
    p.authorityBlock.Offers ((list.flatMap Authority.controls).map Control.tag) := by
  have hlist := Offers.each authorityArticle_offers list
  rw [← List.map_flatMap] at hlist
  rw [SettingsPage.authorityBlock, h]
  refine .quiet (.behind (.lit ?_) hlist) (.lit ?_) <;> decide

/-- The forms of the settings page are those of the authorities that are shown on it, and the one
for a new authority before them. -/
theorem SettingsPage.markup_offers {list : List Authority} (h : p.authorities = .ok list) :
    p.markup.Offers ((.createAuthority :: list.flatMap Authority.controls).map Control.tag) := by
  rw [List.map_cons, SettingsPage.markup, layout]
  refine .quiet (.behind (.quiet (.quiet (.quiet (.quiet (.lit_pieces (.quiet (.lit ?_) (.lit ?_)))
    ?heading) (.lit_pieces (.quiet (.lit ?_) (.lit ?_)))) ?user) (.lit ?_)) (.quiet (.append
    (.quiet (.behind ?messages newAuthorityForm_offers) (.lit ?_)) (authorityBlock_offers h))
    (.lit ?_))) (.lit ?_)
  case heading =>
    refine .quiet (.quiet (.lit ?_) (.put _)) (.lit ?_) <;> decide
  case user =>
    rw [account]
    refine .quiet (.quiet (.lit ?_) (.put _)) (.lit ?_) <;> decide
  case messages =>
    have hnotice : (noticeLine p.notice).Offers [] := by
      rw [noticeLine]
      refine .quiet (.quiet (.lit ?_) (.put _)) (.lit ?_) <;> decide
    refine .quiet (.quiet (.quiet (.quiet (.lit ?_) (.only (errorList_offers p.errors))) (.lit ?_))
      (.only hnotice)) (.lit ?_) <;>
      decide
  all_goals decide

/-- A part of a text has these forms and no others. -/
def Holds (s : List Char) (part : Markup) (controls : List (Control String)) : Prop :=
  part.chars <:+: s ∧ formsIn part.chars = controls.map Control.tag

theorem SettingsPage.holds {list : List Authority} (h : p.authorities = .ok list) {a : Authority}
    (ha : a ∈ list) : Holds p.markup.chars (authorityArticle a) a.controls := by
  refine ⟨?_, (authorityArticle_offers a).formsIn_eq⟩
  have hblock : authorityArticle a <:+: p.authorityBlock := by
    rw [SettingsPage.authorityBlock, h]
    exact List.infix_append_of_infix_left (List.infix_append_of_infix_right (infix_each ha))
  have hmarkup : p.authorityBlock <:+: p.markup := by
    rw [SettingsPage.markup, layout]
    refine List.infix_append_of_infix_left (List.infix_append_of_infix_right
      (List.infix_append_of_infix_left (List.infix_append_of_infix_right (List.infix_refl _))))
  exact chars_infix (hblock.trans hmarkup)

theorem keyItem_holds {a : Authority} {k : Key} (hk : k ∈ a.keys) :
    Holds (authorityArticle a).chars (keyItem a.id k) [.deleteKey a.id k.id] := by
  refine ⟨?_, (keyItem_offers a.id k).formsIn_eq⟩
  have hblock : keyItem a.id k <:+: keyBlock a := by
    rw [keyBlock]
    exact List.infix_append_of_infix_left (List.infix_append_of_infix_left
      (List.infix_append_of_infix_left (List.infix_append_of_infix_right (infix_each hk))))
  have harticle : keyBlock a <:+: authorityArticle a := by
    rw [authorityArticle]
    exact List.infix_append_of_infix_left (List.infix_append_of_infix_left
      (List.infix_append_of_infix_right (List.infix_refl _)))
  exact chars_infix (hblock.trans harticle)

theorem apiKeyItem_holds {a : Authority} {k : ApiKey} (hk : k ∈ a.apiKeys) :
    Holds (authorityArticle a).chars (apiKeyItem a.id k) [.deleteApiKey a.id k.id] := by
  refine ⟨?_, (apiKeyItem_offers a.id k).formsIn_eq⟩
  have hblock : apiKeyItem a.id k <:+: apiKeyBlock a := by
    rw [apiKeyBlock]
    exact List.infix_append_of_infix_left (List.infix_append_of_infix_left
      (List.infix_append_of_infix_left (List.infix_append_of_infix_right (infix_each hk))))
  have harticle : apiKeyBlock a <:+: authorityArticle a := by
    rw [authorityArticle]
    exact List.infix_append_of_infix_left (List.infix_append_of_infix_right (List.infix_refl _))
  exact chars_infix (hblock.trans harticle)

end Page

end RegistryConsole
