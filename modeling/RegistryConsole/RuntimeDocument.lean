import RegistryConsole.Settings
import RegistryConsole.Text.Blank
import RegistryConsole.Text.Split
/-!
# The runtime document

What the registry announces of its deployment, and the configuration resolved from it. A text
that is blank, or a placeholder that nobody rendered, counts as absent. Everyone is admitted where
no users are named.
-/
namespace RegistryConsole

open Json Text

structure AuthDocument where
  providers : List String := []
  endpoint : String := ""
  sessionEndpoint : String := ""
  clearSessionEndpoint : Option String := none
  deriving DecidableEq, Repr

structure RuntimeDocument where
  host : String := ""
  domain : String := ""
  company : String := ""
  /-- User names between commas. -/
  authorizedUsers : String := ""
  auth : AuthDocument := {}
  deriving DecidableEq, Repr

/-- The document as every page and check reads it. -/
structure RuntimeConfiguration where
  hostUrl : String
  canonicalDomain : String
  companyName : String
  oauthProviders : List String
  authorizationEndpoint : String
  sessionEndpoint : String
  clearSessionEndpoint : Option String
  authorizedUsers : List String
  deriving DecidableEq, Repr

namespace AuthDocument

def decode : Decoder AuthDocument :=
  decodeRecord "AuthDocument" [
    (field "providers" (decodeList decodeString) fun v d => { d with providers := v }).optional,
    (field "endpoint" decodeString fun v d => { d with endpoint := v }).optional,
    (field "sessionEndpoint" decodeString fun v d => { d with sessionEndpoint := v }).optional,
    (field "clearSessionEndpoint" (decodeOption decodeString) fun v d =>
      { d with clearSessionEndpoint := v }).optional] {}

end AuthDocument

namespace RuntimeDocument

def decode : Decoder RuntimeDocument :=
  decodeRecord "RuntimeDocument" [
    (field "host" decodeString fun v d => { d with host := v }).optional,
    (field "domain" decodeString fun v d => { d with domain := v }).optional,
    (field "company" decodeString fun v d => { d with company := v }).optional,
    (field "authorizedUsers" decodeString fun v d => { d with authorizedUsers := v }).optional,
    (field "auth" AuthDocument.decode fun v d => { d with auth := v }).optional] {}

end RuntimeDocument

namespace RuntimeConfiguration

/-- A name between double braces that a template engine left as it was: a point, then capital
letters and underscores. -/
def isPlaceholder (s : String) : Bool :=
  match (stripLead? ['\x7b', '\x7b'] (trimChars s.toList)).bind (stripTail? ['\x7d', '\x7d']) with
  | none => false
  | some inner =>
    match trimChars inner with
    | '.' :: name => !name.isEmpty && name.all fun c => c.isUpper || c = '_'
    | _ => false

/-- Whether a text of the document says anything. -/
def isAbsent (s : String) : Bool :=
  isBlankText s || isPlaceholder s

def orDefault (s default : String) : String :=
  if isAbsent s then default else s

/-- The names between commas, blanks around them dropped and blank ones left out. -/
def splitUsers (s : String) : List String :=
  ((split ',' s.toList).map trimChars).filter (!·.isEmpty) |>.map String.ofList

def resolve (document : RuntimeDocument) (defaults : RuntimeDefaults) : RuntimeConfiguration :=
  let providers := document.auth.providers.filter (!isAbsent ·)
  { hostUrl := orDefault document.host ""
    canonicalDomain := orDefault document.domain ""
    companyName := orDefault document.company defaults.companyName
    oauthProviders := if providers.isEmpty then defaults.oauthProviders else providers
    authorizationEndpoint := orDefault document.auth.endpoint ""
    sessionEndpoint := orDefault document.auth.sessionEndpoint ""
    clearSessionEndpoint :=
      (document.auth.clearSessionEndpoint.map (orDefault · "")).filter (!·.isEmpty)
    authorizedUsers := splitUsers (orDefault document.authorizedUsers "") }

/-- What holds while the registry announces nothing. -/
def fallback (defaults : RuntimeDefaults) : RuntimeConfiguration :=
  resolve {} defaults

/-- Whether a user may use the console. -/
def isAuthorized (c : RuntimeConfiguration) (user : String) : Bool :=
  c.authorizedUsers.isEmpty || c.authorizedUsers.contains user

/-- Where to sign in with one provider. -/
def loginUrl (c : RuntimeConfiguration) (provider : String) : String :=
  c.authorizationEndpoint ++ "?provider=" ++ provider

/-- Where the session is cleared: at the session endpoint, unless another is announced. -/
def clearEndpoint (c : RuntimeConfiguration) : String :=
  ((c.clearSessionEndpoint).filter (!·.isEmpty)).getD c.sessionEndpoint

end RuntimeConfiguration

end RegistryConsole
