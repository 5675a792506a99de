import RegistryConsole.Proofs.Registry.Records
import RegistryConsole.Proofs.Text.Blank
import RegistryConsole.Proofs.Text.Split
import RegistryConsole.RuntimeDocument
/-!
# What a runtime document announces

A text of the document is silent if it is blank or a placeholder that nobody rendered. Leaving the
silent texts out of the document does not change what it resolves to, and every other text comes out
as it went in (`resolve_announcement`).
-/
namespace RegistryConsole

open Json Text

/-- A placeholder as a template engine leaves it: in double braces a point and a name of capital
letters and underscores, with blanks around the braces and inside them. -/
def Unrendered (s : List Char) : Prop :=
  ∃ left before name after right : List Char,
    s = left ++ (['\x7b', '\x7b'] ++ (before ++ '.' :: name ++ after) ++ ['\x7d', '\x7d']) ++ right ∧
      (∀ c ∈ left ++ before ++ after ++ right, isBlank c = true) ∧
      name ≠ [] ∧ ∀ c ∈ name, c.isUpper = true ∨ c = '_'

def Silent (s : String) : Prop :=
  (∀ c ∈ s.toList, isBlank c = true) ∨ Unrendered s.toList

private theorem braced_iff {s inner : List Char} :
    (stripLead? ['\x7b', '\x7b'] s).bind (stripTail? ['\x7d', '\x7d']) = some inner ↔
      s = ['\x7b', '\x7b'] ++ inner ++ ['\x7d', '\x7d'] := by
  rw [Option.bind_eq_some_iff]
  constructor
  · rintro ⟨rest, hlead, htail⟩
    rw [stripLead?_eq_some_iff.mp hlead, stripTail?_eq_some_iff.mp htail, List.append_assoc]
  · rintro rfl
    exact ⟨inner ++ ['\x7d', '\x7d'], stripLead?_eq_some_iff.mpr (List.append_assoc ..),
      stripTail?_eq_some_iff.mpr rfl⟩

private theorem isTrimmed_braced_iff {s inner : List Char} :
    IsTrimmed s (['\x7b', '\x7b'] ++ inner ++ ['\x7d', '\x7d']) ↔
      ∃ left right, s = left ++ (['\x7b', '\x7b'] ++ inner ++ ['\x7d', '\x7d']) ++ right ∧
        ∀ c ∈ left ++ right, isBlank c = true := by
  refine ⟨IsTrimmed.middle, fun h => ⟨h, ?_, ?_⟩⟩
  · intro c hc
    obtain rfl : '\x7b' = c := Option.some.inj hc
    decide
  · intro c hc
    rw [List.getLast?_append] at hc
    obtain rfl : '\x7d' = c := Option.some.inj hc
    decide

private theorem not_isBlank_of_name {name : List Char}
    (h : ∀ c ∈ name, c.isUpper = true ∨ c = '_') : ∀ c ∈ '.' :: name, isBlank c = false := by
  refine List.forall_mem_cons.mpr ⟨by decide, fun c hc => ?_⟩
  obtain hupper | rfl := h c hc
  · have hcode : 65 ≤ c.toNat ∧ c.toNat ≤ 90 := of_decide_eq_true hupper
    exact not_isBlank_of_visible (by omega) (by omega)
  · decide

theorem RuntimeConfiguration.isPlaceholder_iff {s : String} :
    isPlaceholder s = true ↔ Unrendered s.toList := by
  constructor
  · intro h
    rw [isPlaceholder] at h
    split at h
    next => cases h
    next inner hbraced =>
      split at h
      next name hname =>
        obtain ⟨left, right, hs, houter⟩ :=
          isTrimmed_braced_iff.mp (trimChars_eq_iff.mp (braced_iff.mp hbraced))
        obtain ⟨before, after, rfl, hinner⟩ := (trimChars_eq_iff.mp hname).middle
        refine ⟨left, before, name, after, right, hs, ?_, by simpa using h⟩
        -- the blanks around the braces enclose those inside them
        simp only [List.forall_mem_append] at houter hinner ⊢
        exact ⟨⟨⟨houter.1, hinner.1⟩, hinner.2⟩, houter.2⟩
      next => cases h
  · rintro ⟨left, before, name, after, right, hs, hblank, hname⟩
    simp only [List.forall_mem_append] at hblank
    obtain ⟨⟨⟨hleft, hbefore⟩, hafter⟩, hright⟩ := hblank
    have houter := trimChars_eq_iff.mpr (isTrimmed_braced_iff.mpr
      ⟨left, right, hs, List.forall_mem_append.mpr ⟨hleft, hright⟩⟩)
    have hinner := IsTrimmed.of_no_blank (List.forall_mem_append.mpr ⟨hbefore, hafter⟩)
      (not_isBlank_of_name hname.2)
    simp only [isPlaceholder, braced_iff.mpr houter, hinner.trimChars_eq]
    simpa using hname

theorem RuntimeConfiguration.isAbsent_iff {s : String} : isAbsent s = true ↔ Silent s := by
  rw [isAbsent, Bool.or_eq_true, isPlaceholder_iff, isBlankText, List.all_eq_true, Silent]

instance (s : String) : Decidable (Silent s) :=
  decidable_of_iff _ RuntimeConfiguration.isAbsent_iff

theorem silent_empty : Silent "" :=
  .inl nofun

namespace RuntimeConfiguration

theorem orDefault_of_silent {s : String} (h : Silent s) (default : String) :
    orDefault s default = default := by
  rw [orDefault, if_pos (isAbsent_iff.mpr h)]

theorem orDefault_of_not_silent {s : String} (h : ¬ Silent s) (default : String) :
    orDefault s default = s := by
  rw [orDefault, if_neg (mt isAbsent_iff.mp h)]

theorem orDefault_orDefault (s default : String) :
    orDefault (orDefault s "") default = orDefault s default := by
  by_cases h : Silent s
  · rw [orDefault_of_silent h, orDefault_of_silent h, orDefault_of_silent silent_empty]
  · rw [orDefault_of_not_silent h]

end RuntimeConfiguration

open RuntimeConfiguration

/-- The member of a text, unless it is silent. -/
def textMember (key s : String) : List (String × Json) :=
  if Silent s then [] else [(key, .string s)]

/-- The providers that are named. -/
def AuthDocument.named (auth : AuthDocument) : List String :=
  auth.providers.filter fun provider => ¬ Silent provider

/-- The members of the texts that say something. -/
def AuthDocument.announcement (auth : AuthDocument) : Json :=
  .ofMembers (auth.clearSessionEndpoint.elim [] (textMember "clearSessionEndpoint") ++
    textMember "endpoint" auth.endpoint ++
    ("providers", .strings auth.named) :: textMember "sessionEndpoint" auth.sessionEndpoint)

def RuntimeDocument.announcement (document : RuntimeDocument) : Json :=
  .ofMembers (("auth", document.auth.announcement) ::
    (textMember "authorizedUsers" document.authorizedUsers ++
      textMember "company" document.company ++ textMember "domain" document.domain ++
      textMember "host" document.host))

section Members

variable {ρ : Type} {fields : List (RecordField ρ)} {key : String} {r : ρ}
  {members : List (String × Json)}

theorem textMember_keys (key s : String) : ((textMember key s).map Prod.fst).Sublist [key] := by
  rw [textMember]
  split
  · exact List.nil_sublist _
  · exact List.Sublist.refl _

/-- Without its member, the field of a silent text keeps the empty one it has by default. -/
theorem readMembersInto_textMember {set : String → ρ → ρ} {required : Bool}
    (hfield : fields.find? (·.key = key) =
      some ⟨key, required, fun v r => (decodeString v).map (set · r)⟩)
    (hset : set "" r = r) (s : String) :
    readMembersInto fields (textMember key s ++ members) r =
      readMembersInto fields members (set (orDefault s "") r) := by
  rw [textMember]
  by_cases h : Silent s
  · rw [if_pos h, orDefault_of_silent h, hset, List.nil_append]
  · rw [if_neg h, orDefault_of_not_silent h, List.singleton_append,
      readMembersInto_field hfield (decodeString_string s)]

theorem readMembersInto_optionalText {set : Option String → ρ → ρ} {required : Bool}
    (hfield : fields.find? (·.key = key) =
      some ⟨key, required, fun v r => (decodeOption decodeString v).map (set · r)⟩)
    (hset : set none r = r) (s? : Option String) :
    readMembersInto fields (s?.elim [] (textMember key) ++ members) r =
      readMembersInto fields members (set (s?.filter fun s => ¬ Silent s) r) := by
  cases s? with
  | none => rw [Option.elim_none, List.nil_append, Option.filter_none, hset]
  | some s =>
      rw [Option.elim_some, textMember]
      by_cases h : Silent s
      · rw [if_pos h, List.nil_append, Option.filter_some_neg (by simpa using h), hset]
      · rw [if_neg h, List.singleton_append, readMembersInto_field hfield rfl,
          Option.filter_some_pos (by simpa using h)]

theorem ofMembers_of_keys {keys : List String} (h : (members.map Prod.fst).Sublist keys)
    (hkeys : keys.Pairwise (· < ·)) : ofMembers members = .object members :=
  ofMembers_of_sorted (List.pairwise_map.mp (hkeys.sublist h))

end Members

namespace AuthDocument

/-- What is read of its announcement. -/
def heard (auth : AuthDocument) : AuthDocument where
  providers := auth.named
  endpoint := orDefault auth.endpoint ""
  sessionEndpoint := orDefault auth.sessionEndpoint ""
  clearSessionEndpoint := auth.clearSessionEndpoint.filter fun endpoint => ¬ Silent endpoint

theorem announcement_eq (auth : AuthDocument) :
    auth.announcement = .object (auth.clearSessionEndpoint.elim []
      (textMember "clearSessionEndpoint") ++ textMember "endpoint" auth.endpoint ++
      ("providers", .strings auth.named) ::
        textMember "sessionEndpoint" auth.sessionEndpoint) := by
  have hkeys : ["clearSessionEndpoint", "endpoint", "providers", "sessionEndpoint"].Pairwise
      (· < ·) := by decide
  have hclear : ((auth.clearSessionEndpoint.elim []
      (textMember "clearSessionEndpoint")).map Prod.fst).Sublist ["clearSessionEndpoint"] := by
    cases auth.clearSessionEndpoint with
    | none => exact List.nil_sublist _
    | some endpoint => exact textMember_keys _ endpoint
  -- which members there are depends on the texts, but their keys are always in this order
  refine ofMembers_of_keys ?_ hkeys
  rw [List.map_append, List.map_append, List.map_cons]
  exact (hclear.append (textMember_keys _ _)).append ((textMember_keys _ _).cons_cons "providers")

theorem decode_announcement (auth : AuthDocument) : decode auth.announcement = .ok auth.heard := by
  have hnamed : decodeList decodeString (.strings auth.named) = .ok auth.named :=
    decodeList_map decodeString_string auth.named
  rw [announcement_eq, decode, decodeRecord, decodeMembers, List.append_assoc,
    readMembersInto_optionalText rfl rfl, readMembersInto_textMember rfl rfl,
    readMembersInto_field rfl hnamed, ← List.append_nil (textMember _ _),
    readMembersInto_textMember rfl rfl]
  rfl

end AuthDocument

namespace RuntimeDocument

def heard (document : RuntimeDocument) : RuntimeDocument where
  host := orDefault document.host ""
  domain := orDefault document.domain ""
  company := orDefault document.company ""
  authorizedUsers := orDefault document.authorizedUsers ""
  auth := document.auth.heard

theorem announcement_eq (document : RuntimeDocument) :
    document.announcement = .object (("auth", document.auth.announcement) ::
      (textMember "authorizedUsers" document.authorizedUsers ++
        textMember "company" document.company ++ textMember "domain" document.domain ++
        textMember "host" document.host)) := by
  have hkeys : ["auth", "authorizedUsers", "company", "domain", "host"].Pairwise (· < ·) := by
    decide
  refine ofMembers_of_keys ?_ hkeys
  rw [List.map_cons, List.map_append, List.map_append, List.map_append]
  exact ((((textMember_keys _ _).append (textMember_keys _ _)).append
    (textMember_keys _ _)).append (textMember_keys _ _)).cons_cons "auth"

theorem decode_announcement (document : RuntimeDocument) :
    decode document.announcement = .ok document.heard := by
  rw [announcement_eq, decode, decodeRecord, decodeMembers,
    readMembersInto_field rfl document.auth.decode_announcement, List.append_assoc,
    List.append_assoc, readMembersInto_textMember rfl rfl, readMembersInto_textMember rfl rfl,
    readMembersInto_textMember rfl rfl, ← List.append_nil (textMember _ _),
    readMembersInto_textMember rfl rfl]
  rfl

end RuntimeDocument

namespace RuntimeConfiguration

theorem filter_not_isAbsent (texts : List String) :
    texts.filter (!isAbsent ·) = texts.filter fun s => ¬ Silent s := by
  refine List.filter_congr fun s _ => ?_
  rw [Bool.eq_iff_iff, Bool.not_eq_true', ← Bool.not_eq_true, isAbsent_iff, decide_eq_true_iff]

theorem filter_orDefault (endpoint? : Option String) :
    (endpoint?.map (orDefault · "")).filter (!·.isEmpty) =
      endpoint?.filter fun endpoint => ¬ Silent endpoint := by
  cases endpoint? with
  | none => rfl
  | some endpoint =>
      rw [Option.map_some, Option.filter_some, Option.filter_some]
      by_cases h : Silent endpoint
      · simp [orDefault_of_silent h, h]
      · have hne : endpoint ≠ "" := by
          rintro rfl
          exact h silent_empty
        simp [orDefault_of_not_silent h, h, hne]

theorem resolve_eq (document : RuntimeDocument) (defaults : RuntimeDefaults) :
    resolve document defaults =
      { hostUrl := orDefault document.host ""
        canonicalDomain := orDefault document.domain ""
        companyName := orDefault document.company defaults.companyName
        oauthProviders :=
          if document.auth.named = [] then defaults.oauthProviders else document.auth.named
        authorizationEndpoint := orDefault document.auth.endpoint ""
        sessionEndpoint := orDefault document.auth.sessionEndpoint ""
        clearSessionEndpoint :=
          document.auth.clearSessionEndpoint.filter fun endpoint => ¬ Silent endpoint
        authorizedUsers := splitUsers (orDefault document.authorizedUsers "") } := by
  simp only [resolve, filter_not_isAbsent, filter_orDefault, List.isEmpty_iff]
  rfl

theorem resolve_heard (document : RuntimeDocument) (defaults : RuntimeDefaults) :
    resolve document.heard defaults = resolve document defaults := by
  have hnamed : document.heard.auth.named = document.auth.named := by
    rw [AuthDocument.named, AuthDocument.named, RuntimeDocument.heard, AuthDocument.heard,
      AuthDocument.named, List.filter_filter]
    simp only [Bool.and_self]
  rw [resolve_eq, resolve_eq, hnamed]
  simp only [RuntimeDocument.heard, AuthDocument.heard, orDefault_orDefault, Option.filter_filter,
    Bool.and_self]

/-- A configuration has the texts of a document that say something as they are there. -/
structure Keeps (document : RuntimeDocument) (defaults : RuntimeDefaults)
    (c : RuntimeConfiguration) : Prop where
  hostUrl : ¬ Silent document.host → c.hostUrl = document.host
  canonicalDomain : ¬ Silent document.domain → c.canonicalDomain = document.domain
  companyName : ¬ Silent document.company → c.companyName = document.company
  authorizationEndpoint :
    ¬ Silent document.auth.endpoint → c.authorizationEndpoint = document.auth.endpoint
  sessionEndpoint :
    ¬ Silent document.auth.sessionEndpoint → c.sessionEndpoint = document.auth.sessionEndpoint
  clearSessionEndpoint : ∀ endpoint ∈ document.auth.clearSessionEndpoint,
    ¬ Silent endpoint → c.clearSessionEndpoint = some endpoint
  oauthProviders : c.oauthProviders =
    if document.auth.named = [] then defaults.oauthProviders else document.auth.named

/-- Silent texts count as absent, and all others are kept. -/
theorem resolve_announcement (document : RuntimeDocument) (defaults : RuntimeDefaults) :
    (RuntimeDocument.decode document.announcement = .ok document.heard ∧
      resolve document.heard defaults = resolve document defaults) ∧
      Keeps document defaults (resolve document defaults) := by
  refine ⟨⟨document.decode_announcement, resolve_heard document defaults⟩, ?_⟩
  rw [resolve_eq]
  exact {
    hostUrl := fun h => orDefault_of_not_silent h ""
    canonicalDomain := fun h => orDefault_of_not_silent h ""
    companyName := fun h => orDefault_of_not_silent h defaults.companyName
    authorizationEndpoint := fun h => orDefault_of_not_silent h ""
    sessionEndpoint := fun h => orDefault_of_not_silent h ""
    clearSessionEndpoint := by
      intro endpoint hendpoint h
      rw [Option.mem_def.mp hendpoint, Option.filter_some, if_pos (decide_eq_true h)]
    oauthProviders := rfl }

end RuntimeConfiguration

end RegistryConsole
