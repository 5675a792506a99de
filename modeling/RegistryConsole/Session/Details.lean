import RegistryConsole.Json.Decoder
/-!
# Session details

Who is signed in, as the registry's session endpoint tells it.
-/
namespace RegistryConsole

open Json

structure SessionDetails where
  name : String := ""
  email : String := ""
  groups : List String := []
  authorityId : Option String := none
  deriving DecidableEq, Repr, Inhabited

namespace SessionDetails

def fields : List (RecordField SessionDetails) := [
  field "name" decodeString fun v d => { d with name := v },
  field "email" decodeString fun v d => { d with email := v },
  (field "groups" (decodeList decodeString) fun v d => { d with groups := v }).optional,
  (field "authorityId" (decodeOption decodeString) fun v d =>
    { d with authorityId := v }).optional]

def decode : Decoder SessionDetails :=
  decodeRecord "SessionDetails" fields {}

end SessionDetails

end RegistryConsole
