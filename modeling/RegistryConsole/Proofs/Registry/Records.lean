import RegistryConsole.Artifact.Json
import RegistryConsole.Authority
import RegistryConsole.Proofs.Instant.Lenient
import RegistryConsole.Proofs.Json.Reader
import RegistryConsole.Proofs.Keys.Casing
/-!
# Records of the registry

What is written of an authority, a key, an API key or an artifact decodes to it again, and is a
value that comes back from its own text and from snake case (`Portable`).
-/
namespace RegistryConsole

open Json Keys

namespace Json

variable {depth : Nat}

/-- A value that can be written in snake case and read back in camel case. -/
structure Portable (depth : Nat) (v : Json) : Prop where
  textual : Textual depth v
  keys : v.EachKey fun k => toCamel (toSnake k) = k

@[simp] theorem portable_string (s : String) : Portable depth (.string s) :=
  ⟨.string s, eachKey_of_isScalar True.intro⟩

@[simp] theorem portable_bool (b : Bool) : Portable depth (.bool b) :=
  ⟨.bool b, eachKey_of_isScalar True.intro⟩

theorem Portable.array {items : List Json} (h : ∀ v ∈ items, Portable depth v) :
    Portable (depth + 1) (.array items) :=
  ⟨.array fun v hv => (h v hv).textual,
    everywhere_array.mpr ⟨True.intro, fun v hv => (h v hv).keys⟩⟩

theorem Portable.ofMembers {members : List (String × Json)}
    (h : ∀ m ∈ members, toCamel (toSnake m.1) = m.1 ∧ Portable depth m.2) :
    Portable (depth + 1) (ofMembers members) :=
  ⟨.ofMembers fun m hm => (h m hm).2.textual,
    ofMembers_eachKey fun m hm => ⟨(h m hm).1, (h m hm).2.keys⟩⟩

theorem Portable.list {α : Type} {toJson : α → Json} (h : ∀ a, Portable depth (toJson a))
    (as : List α) : Portable (depth + 1) (.array (as.map toJson)) :=
  .array (List.forall_mem_map.mpr fun a _ => h a)

theorem decodeList_map {α : Type} {decode : Decoder α} {toJson : α → Json}
    (h : ∀ a, decode (toJson a) = .ok a) (as : List α) :
    decodeList decode (.array (as.map toJson)) = .ok as := by
  rw [decodeList]
  induction as with
  | nil => rfl
  | cons a as ih =>
      rw [List.map_cons, decodeItems, h, ih]
      rfl

theorem decodeString_string (s : String) : decodeString (.string s) = .ok s := rfl

theorem decodeBool_bool (b : Bool) : decodeBool (.bool b) = .ok b := rfl

theorem decodeInstant_text {t : Instant} (hvalid : t.IsValid) (hyear : t.HasFourDigitYear) :
    decodeInstant (.string (t.text .letter)) = .ok t := by
  rw [decodeInstant, Instant.text, String.toList_ofList, Instant.lenient_chars t hvalid hyear]

variable {ρ α : Type} {fields : List (RecordField ρ)} {key : String} {v : Json} {r : ρ}
  {members : List (String × Json)}

theorem readMembersInto_field {decode : Decoder α} {set : α → ρ → ρ} {required : Bool} {a : α}
    (hfield : fields.find? (·.key = key) =
      some ⟨key, required, fun v r => (decode v).map (set · r)⟩)
    (hdecode : decode v = .ok a) :
    readMembersInto fields ((key, v) :: members) r = readMembersInto fields members (set a r) := by
  rw [readMembersInto, hfield]
  simp only [hdecode, Except.map, bind, Except.bind]

theorem readMembersInto_unknown (hfield : fields.find? (·.key = key) = none) :
    readMembersInto fields ((key, v) :: members) r = readMembersInto fields members r := by
  rw [readMembersInto, hfield]

end Json

theorem Key.decode_toJson (k : Key) : Key.decode k.toJson = .ok k := by
  have hmembers : k.toJson = .object [("asciiArmor", .string k.asciiArmor), ("id", .string k.id),
      ("keyId", .string k.keyId), ("trustSignature", .string k.trustSignature)] := by
    simp only [Key.toJson, ofMembers, sortMembers, List.foldl_cons, List.foldl_nil]
    cbv
  rw [hmembers, decode, decodeRecord, decodeMembers,
    readMembersInto_field rfl (decodeString_string k.asciiArmor),
    readMembersInto_field rfl (decodeString_string k.id),
    readMembersInto_field rfl (decodeString_string k.keyId),
    readMembersInto_field rfl (decodeString_string k.trustSignature)]
  rfl

theorem ApiKey.decode_toJson (k : ApiKey) : ApiKey.decode k.toJson = .ok k := by
  have hmembers : k.toJson = .object [("id", .string k.id), ("name", .string k.name)] := by
    simp only [ApiKey.toJson, ofMembers, sortMembers, List.foldl_cons, List.foldl_nil]
    cbv
  rw [hmembers, decode, decodeRecord, decodeMembers,
    readMembersInto_field rfl (decodeString_string k.id),
    readMembersInto_field rfl (decodeString_string k.name)]
  rfl

theorem Authority.decode_toJson (a : Authority) : Authority.decode a.toJson = .ok a := by
  have hmembers : a.toJson = .object [("apiKeys", .array (a.apiKeys.map ApiKey.toJson)),
      ("id", .string a.id), ("isPublic", .bool a.isPublic),
      ("keys", .array (a.keys.map Key.toJson)), ("name", .string a.name),
      ("policyUrl", .string a.policyUrl)] := by
    simp only [Authority.toJson, ofMembers, sortMembers, List.foldl_cons, List.foldl_nil]
    cbv
  rw [hmembers, decode, decodeRecord, decodeMembers,
    readMembersInto_field rfl (decodeList_map ApiKey.decode_toJson a.apiKeys),
    readMembersInto_field rfl (decodeString_string a.id),
    readMembersInto_field rfl (decodeBool_bool a.isPublic),
    readMembersInto_field rfl (decodeList_map Key.decode_toJson a.keys),
    readMembersInto_field rfl (decodeString_string a.name),
    readMembersInto_field rfl (decodeString_string a.policyUrl)]
  rfl

theorem Key.toJson_portable (depth : Nat) (k : Key) : Portable (depth + 1) k.toJson :=
  .ofMembers (by simp +decide)

theorem ApiKey.toJson_portable (depth : Nat) (k : ApiKey) : Portable (depth + 1) k.toJson :=
  .ofMembers (by simp +decide)

theorem Authority.toJson_portable (depth : Nat) (a : Authority) :
    Portable (depth + 3) a.toJson :=
  .ofMembers (by
    simp +decide [Portable.list (Key.toJson_portable depth),
      Portable.list (ApiKey.toJson_portable depth)])

namespace Artifact

/-- The members of an artifact in order, those of its kind among them. -/
def sortedMembers (a : Artifact) : List (String × Json) :=
  ("createdAt", .string (a.createdAt.text .letter)) :: ("fullName", .string a.fullName) ::
    ("id", .string a.id) :: ("name", .string a.name) :: ("namespace", .string a.namespaceName) ::
    (a.kind.members.reverse ++ [("updatedAt", .string (a.updatedAt.text .letter)),
      ("versions", .strings a.versions)])

theorem toJson_eq (a : Artifact) : a.toJson = .object a.sortedMembers := by
  rw [toJson, sortedMembers]
  -- the texts of the dates are not computed
  generalize a.createdAt.text .letter = created, a.updatedAt.text .letter = updated
  cases a.kind with
  | provider =>
      simp only [ArtifactKind.members, ofMembers, sortMembers, List.cons_append, List.nil_append,
        List.foldl_cons, List.foldl_nil]
      cbv
  | module provider =>
      simp only [ArtifactKind.members, ofMembers, sortMembers, List.cons_append, List.nil_append,
        List.foldl_cons, List.foldl_nil]
      cbv

/-- The fields of an artifact pass over the members of its kind. -/
theorem readMembersInto_kind (kind : ArtifactKind) (members : List (String × Json)) (r : Artifact) :
    readMembersInto fields (kind.members.reverse ++ members) r =
      readMembersInto fields members r := by
  cases kind with
  | provider => exact readMembersInto_unknown rfl
  | module provider =>
      rw [ArtifactKind.members, List.reverse_cons, List.reverse_singleton, List.append_assoc,
        List.singleton_append, readMembersInto_unknown rfl]
      exact readMembersInto_unknown rfl

theorem decodeMembers_sortedMembers {a : Artifact}
    (hcreated : decodeInstant (.string (a.createdAt.text .letter)) = .ok a.createdAt)
    (hupdated : decodeInstant (.string (a.updatedAt.text .letter)) = .ok a.updatedAt) :
    decodeMembers fields {} a.sortedMembers = .ok { a with kind := .provider } := by
  have hversions : decodeList decodeString (.strings a.versions) = .ok a.versions :=
    decodeList_map decodeString_string a.versions
  have hmissing : missing? fields a.sortedMembers = none := by
    rw [sortedMembers]
    cases a.kind with
    | provider => rfl
    | module provider => rfl
  rw [decodeMembers, hmissing, sortedMembers, readMembersInto_field rfl hcreated,
    readMembersInto_field rfl (decodeString_string a.fullName),
    readMembersInto_field rfl (decodeString_string a.id),
    readMembersInto_field rfl (decodeString_string a.name),
    readMembersInto_field rfl (decodeString_string a.namespaceName), readMembersInto_kind,
    readMembersInto_field rfl hupdated,
    readMembersInto_field rfl hversions]
  rfl

theorem decodeKind_sortedMembers (a : Artifact) :
    ArtifactKind.ofMembers ArtifactKind.decodePlacedTag a.sortedMembers = .ok a.kind := by
  rw [sortedMembers]
  cases a.kind with
  | provider => rfl
  | module provider => rfl

theorem decode_toJson {a : Artifact}
    (hcreated : a.createdAt.IsValid ∧ a.createdAt.HasFourDigitYear)
    (hupdated : a.updatedAt.IsValid ∧ a.updatedAt.HasFourDigitYear) :
    Artifact.decode a.toJson = .ok a := by
  have hmembers := decodeMembers_sortedMembers (decodeInstant_text hcreated.1 hcreated.2)
    (decodeInstant_text hupdated.1 hupdated.2)
  rw [toJson_eq, decode, hmembers]
  simp only [decodeKind_sortedMembers, bind, Except.bind, pure, Except.pure]

theorem toJson_portable (depth : Nat) (a : Artifact) : Portable (depth + 2) a.toJson := by
  refine .ofMembers ?_
  have hversions : Portable (depth + 1) (.strings a.versions) :=
    .list portable_string a.versions
  cases a.kind with
  | provider => simp +decide [ArtifactKind.members, hversions]
  | module provider => simp +decide [ArtifactKind.members, hversions]

end Artifact

end RegistryConsole
