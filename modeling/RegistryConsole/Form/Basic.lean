import RegistryConsole.Authority
import RegistryConsole.Form.Fault
/-!
# The forms of the settings page

The three forms as a browser posts them, what is wrong with them, and what they ask the registry to
create. Texts are trimmed on the way; of the optional ones a blank text counts as none.
-/
namespace RegistryConsole

open Form Json Text

/-- A faulty field, with the message shown next to the form. -/
structure FieldError where
  field : String
  message : String
  deriving DecidableEq, Repr

/-- The fields at fault, in their order, from the fields with their first faults. -/
def FieldError.collect (checks : List (String × Option Fault)) : List FieldError :=
  checks.filterMap fun (field, fault) => fault.map fun f => ⟨field, f.message⟩

/-- A trimmed text, unless it is blank. -/
def nonBlank? (s : String) : Option String :=
  if isBlankText s then none else some (trim s)

structure AuthorityForm where
  name : String := ""
  policyUrl : String := ""
  /-- A checkbox is posted only when it is ticked. -/
  isPublic : Option String := none
  deriving DecidableEq, Repr

namespace AuthorityForm

def fields : List (RecordField AuthorityForm) := [
  (field "name" decodeString fun v f => { f with name := v }).optional,
  (field "policy_url" decodeString fun v f => { f with policyUrl := v }).optional,
  (field "is_public" (decodeOption decodeString) fun v f => { f with isPublic := v }).optional]

def decode : Decoder AuthorityForm :=
  decodeRecord "AuthorityForm" fields {}

def errors (f : AuthorityForm) : List FieldError :=
  FieldError.collect [
    ("name", required f.name <|> minLength (.above 2) (trim f.name)),
    ("policy_url", optionalUrl f.policyUrl)]

def toNew (f : AuthorityForm) : NewAuthority :=
  ⟨trim f.name, trim f.policyUrl, f.isPublic.isSome⟩

end AuthorityForm

structure KeyForm where
  keyId : String := ""
  asciiArmor : String := ""
  trustSignature : String := ""
  deriving DecidableEq, Repr

namespace KeyForm

def fields : List (RecordField KeyForm) := [
  (field "key_id" decodeString fun v f => { f with keyId := v }).optional,
  (field "ascii_armor" decodeString fun v f => { f with asciiArmor := v }).optional,
  (field "trust_signature" decodeString fun v f => { f with trustSignature := v }).optional]

def decode : Decoder KeyForm :=
  decodeRecord "KeyForm" fields {}

def errors (f : KeyForm) : List FieldError :=
  FieldError.collect [("key_id", required f.keyId <|> minLength (.atLeast 8) (trim f.keyId))]

def toNew (f : KeyForm) : NewKey :=
  ⟨trim f.keyId, nonBlank? f.asciiArmor, nonBlank? f.trustSignature⟩

end KeyForm

structure ApiKeyForm where
  name : String := ""
  deriving DecidableEq, Repr

namespace ApiKeyForm

def fields : List (RecordField ApiKeyForm) := [
  (field "name" decodeString fun v f => { f with name := v }).optional]

def decode : Decoder ApiKeyForm :=
  decodeRecord "ApiKeyForm" fields {}

def errors (f : ApiKeyForm) : List FieldError :=
  FieldError.collect [("name", required f.name)]

def toNew (f : ApiKeyForm) : NewApiKey :=
  ⟨trim f.name⟩

end ApiKeyForm

end RegistryConsole
