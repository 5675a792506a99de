import RegistryConsole.Artifact.Basic
import RegistryConsole.Json.Decoder
/-!
# Artifacts in JSON

The kind of an artifact is spread over its object: a member `type` tells the flavour and a module
has a member `provider` beside it. On its own a kind may also be an array that begins with the
tag; within an artifact the tag may also be the place of the variant.
-/
namespace RegistryConsole

open Json

namespace ArtifactKind

def tagKey : String := "type"

def tagName : ArtifactKind → String
  | provider => "provider"
  | module _ => "module"

/-- The flavours by the place of their variants. -/
inductive Tag where
  | provider
  | module
  deriving DecidableEq

def Tag.names : List String := ["provider", "module"]

def Tag.ofName (s : String) : Except Mismatch Tag :=
  if s = "provider" then .ok .provider
  else if s = "module" then .ok .module
  else .error (.unknownVariant s names)

def Tag.ofIndex (n : Nat) : Except Mismatch Tag :=
  match n with
  | 0 => .ok .provider
  | 1 => .ok .module
  | n => .error (.wrongValue (.number (.whole n)) (.variantIndex names.length))

def decodeTag : Decoder Tag
  | .string s => Tag.ofName s
  | v => wrongType .variant v

/-- A tag by its name or by its place. -/
def decodePlacedTag : Decoder Tag
  | .number (.whole n) =>
    if 0 ≤ n then Tag.ofIndex n.toNat else wrongType .variant (.number (.whole n))
  | v => decodeTag v

def providerKey : String := "provider"

/-- The kind of a tag whose fields are members of an object. -/
def ofTaggedMembers (members : List (String × Json)) : Tag → Except Mismatch ArtifactKind
  | .provider => .ok .provider
  | .module =>
    match members.lookup providerKey with
    | some v => (decodeString v).map .module
    | none => .error (.missingField providerKey)

/-- The kind of a tag whose fields are the rest of an array. -/
def ofTaggedItems (items : List Json) : Tag → Except Mismatch ArtifactKind
  | .provider =>
    if items.isEmpty then .ok .provider
    else .error (.wrongLength items.length (.itemsRead 0))
  | .module =>
    match items with
    | [] => .error (.wrongLength 0 (.variantFields "ArtifactKind::Module" 1))
    | [v] => (decodeString v).map .module
    | v :: _ => do
      let _ ← decodeString v
      .error (.wrongLength items.length (.itemsRead 1))

def ofMembers (tag : Decoder Tag) (members : List (String × Json)) :
    Except Mismatch ArtifactKind :=
  match members.lookup tagKey with
  | some v => do ofTaggedMembers members (← tag v)
  | none => .error (.missingField tagKey)

def decode : Decoder ArtifactKind
  | .object members => ofMembers decodeTag members
  | .array [] => .error (.missingField tagKey)
  | .array (v :: rest) => do ofTaggedItems rest (← decodeTag v)
  | v => wrongType (.tagged "ArtifactKind") v

def members : ArtifactKind → List (String × Json)
  | provider => [(tagKey, .string "provider")]
  | module p => [(tagKey, .string "module"), (providerKey, .string p)]

def toJson (k : ArtifactKind) : Json :=
  .ofMembers k.members

end ArtifactKind

namespace Artifact

def fields : List (RecordField Artifact) := [
  field "id" decodeString fun v a => { a with id := v },
  field "fullName" decodeString fun v a => { a with fullName := v },
  field "namespace" decodeString fun v a => { a with namespaceName := v },
  field "name" decodeString fun v a => { a with name := v },
  (field "versions" (decodeList decodeString) fun v a => { a with versions := v }).optional,
  field "createdAt" decodeInstant fun v a => { a with createdAt := v },
  field "updatedAt" decodeInstant fun v a => { a with updatedAt := v }]

def decode : Decoder Artifact
  | .object members => do
    let a ← decodeMembers fields {} members
    let kind ← ArtifactKind.ofMembers ArtifactKind.decodePlacedTag members
    return { a with kind }
  | v => wrongType (.record "Artifact") v

def toJson (a : Artifact) : Json :=
  .ofMembers ([("id", .string a.id), ("fullName", .string a.fullName),
    ("namespace", .string a.namespaceName), ("name", .string a.name)] ++ a.kind.members ++
    [("versions", .strings a.versions), ("createdAt", .string (a.createdAt.text .letter)),
      ("updatedAt", .string (a.updatedAt.text .letter))])

end Artifact

def NewArtifact.toJson (a : NewArtifact) : Json :=
  .ofMembers ([("namespace", .string a.namespaceName), ("name", .string a.name)] ++ a.kind.members ++
    [("version", .string a.version)])

end RegistryConsole
