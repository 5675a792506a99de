import RegistryConsole.Json.Decoder
/-!
# Authorities

A namespace of the registry with its signing keys and API keys, and the parts of them that are
sent to create new ones. Only names and key ids have to be there in what the registry sends.
-/
namespace RegistryConsole

open Json

/-- A signing key registered under an authority. -/
structure Key where
  id : String := ""
  keyId : String := ""
  asciiArmor : String := ""
  trustSignature : String := ""
  deriving DecidableEq, Repr, Inhabited

structure ApiKey where
  id : String := ""
  name : String := ""
  deriving DecidableEq, Repr, Inhabited

/-- A namespace owning signing keys, API keys and published artifacts. -/
structure Authority where
  id : String := ""
  name : String := ""
  policyUrl : String := ""
  isPublic : Bool := false
  keys : List Key := []
  apiKeys : List ApiKey := []
  deriving DecidableEq, Repr, Inhabited

structure NewAuthority where
  name : String := ""
  policyUrl : String := ""
  isPublic : Bool := false
  deriving DecidableEq, Repr

structure NewKey where
  keyId : String := ""
  asciiArmor : Option String := none
  trustSignature : Option String := none
  deriving DecidableEq, Repr

structure NewApiKey where
  name : String := ""
  deriving DecidableEq, Repr

namespace Key

def fields : List (RecordField Key) := [
  (field "id" decodeString fun v k => { k with id := v }).optional,
  field "keyId" decodeString fun v k => { k with keyId := v },
  (field "asciiArmor" decodeString fun v k => { k with asciiArmor := v }).optional,
  (field "trustSignature" decodeString fun v k => { k with trustSignature := v }).optional]

def decode : Decoder Key :=
  decodeRecord "Key" fields {}

def toJson (k : Key) : Json :=
  .ofMembers [("id", .string k.id), ("keyId", .string k.keyId),
    ("asciiArmor", .string k.asciiArmor), ("trustSignature", .string k.trustSignature)]

end Key

namespace ApiKey

def fields : List (RecordField ApiKey) := [
  (field "id" decodeString fun v k => { k with id := v }).optional,
  field "name" decodeString fun v k => { k with name := v }]

def decode : Decoder ApiKey :=
  decodeRecord "ApiKey" fields {}

def toJson (k : ApiKey) : Json :=
  .ofMembers [("id", .string k.id), ("name", .string k.name)]

end ApiKey

namespace Authority

def fields : List (RecordField Authority) := [
  (field "id" decodeString fun v a => { a with id := v }).optional,
  field "name" decodeString fun v a => { a with name := v },
  (field "policyUrl" decodeString fun v a => { a with policyUrl := v }).optional,
  (field "isPublic" decodeBool fun v a => { a with isPublic := v }).optional,
  (field "keys" (decodeList Key.decode) fun v a => { a with keys := v }).optional,
  (field "apiKeys" (decodeList ApiKey.decode) fun v a => { a with apiKeys := v }).optional]

def decode : Decoder Authority :=
  decodeRecord "Authority" fields {}

def toJson (a : Authority) : Json :=
  .ofMembers [("id", .string a.id), ("name", .string a.name), ("policyUrl", .string a.policyUrl),
    ("isPublic", .bool a.isPublic), ("keys", .array (a.keys.map Key.toJson)),
    ("apiKeys", .array (a.apiKeys.map ApiKey.toJson))]

end Authority

def NewAuthority.toJson (a : NewAuthority) : Json :=
  .ofMembers [("name", .string a.name), ("policyUrl", .string a.policyUrl),
    ("isPublic", .bool a.isPublic)]

/-- The member of a key where there is a text. -/
private def optionalMember (key : String) : Option String → List (String × Json)
  | some s => [(key, .string s)]
  | none => []

def NewKey.toJson (k : NewKey) : Json :=
  .ofMembers ([("keyId", .string k.keyId)] ++ optionalMember "asciiArmor" k.asciiArmor ++
    optionalMember "trustSignature" k.trustSignature)

def NewApiKey.toJson (k : NewApiKey) : Json :=
  .ofMembers [("name", .string k.name)]

end RegistryConsole
