import RegistryConsole.Form.Posted
import RegistryConsole.Http.Message
import RegistryConsole.Page.ArtifactPage
import RegistryConsole.Page.Dashboard
import RegistryConsole.Page.Entry
import RegistryConsole.Page.SettingsPage
import RegistryConsole.Route.Table
/-!
# The answers of endpoints

What an endpoint answers once its guard has let a navigation through. Pages are built from what
the registry answers; a form is put to the registry only if nothing is wrong with it.
-/
namespace RegistryConsole

open Registry

def Http.Response.ofError (e : ConsoleError) : Http.Response :=
  .json e.status e.body

namespace Pages

abbrev Reply := Except ConsoleError Http.Response

def page (status : Nat) (markup : Markup) : Http.Response :=
  .page status markup.render

def notFound (n : Navigation) : Reply :=
  .ok (page 404 (Page.NotFound.mk n.path).markup)

def login (n : Navigation) : Reply :=
  .ok (page 200 (Page.Login.of n.runtime).markup)

/-- Nobody gets here, since the route's last condition never passes. -/
def logout : Reply :=
  .ok (.redirect Route.loginPath)

def forbidden (n : Navigation) : Reply := do
  let userName ← n.userName
  return page 403 (Page.Forbidden.mk n.runtime.companyName userName).markup

/-- Neither list waits for the other, and a server may ask for both at once. That the artifacts come
first here is a choice of one of the two orders. -/
def dashboard (n : Navigation) : Dialogue Reply := do
  let artifacts ← Artifacts.getAll n.clients.artifacts
  let authorities ← Authorities.getAll n.clients.authorities
  return do
    let userName ← n.userName
    return page 200 (Page.Dashboard.markup {
      companyName := n.runtime.companyName
      userName
      authorities := authorities.toView
      artifacts := artifacts.toView.map (List.map (Page.ArtifactRow.of n.now)) })

/-- The status and the content of an artifact's page, from the answer of the registry. -/
def artifactContent (now : Instant) (version : Option String) :
    Envelope Artifact → Nat × Except String Page.ArtifactView
  | .ok artifact =>
    match Page.ArtifactView.of? now version artifact with
    | some view => (200, .ok view)
    | none => (404, .error ("Version " ++ version.getD "" ++ " was not found."))
  | .error message _ =>
    (if message = ErrorCode.notFound.message then 404 else 502, .error message)

def artifact (n : Navigation) (slug : Slug) (version : Option String) : Dialogue Reply := do
  let answer ← Artifacts.getOne n.clients.artifacts slug
  let (status, content) := artifactContent n.now version answer
  return do
    let userName ← n.userName
    return page status (Page.ArtifactPage.markup {
      title := slug.joined
      companyName := n.runtime.companyName
      userName
      artifact := content })

/-- The settings page with what there is to say of the last form. -/
def settings (n : Navigation) (status : Nat) (errors : List FieldError) (notice : String) :
    Dialogue Reply :=
  match n.userName with
  | .error e => pure (.error e)
  | .ok userName => do
    let authorities ← Authorities.getAll n.clients.authorities
    return .ok (page status (Page.SettingsPage.markup {
      companyName := n.runtime.companyName
      userName
      authorities := authorities.toView
      errors
      notice }))

/-- Goes back to the settings page, or shows it with the message of a failed call. -/
def settle (n : Navigation) : Envelope α → Dialogue Reply
  | .ok _ => pure (.ok (.redirect Route.settingsPath))
  | .error message _ => settings n 502 [] message

/-- Puts a form to the registry, unless a field is at fault. -/
def submit (n : Navigation) (errors : List FieldError) (call : Dialogue (Envelope α)) :
    Dialogue Reply :=
  if errors.isEmpty then call.bind (settle n) else settings n 422 errors ""

/-- Why the body of a request is no form. -/
inductive BodyError where
  | wrongType
  | tooLong
  | mismatch (cause : Json.Mismatch)

def BodyError.status : BodyError → Nat
  | wrongType => 415
  | tooLong => 413
  | mismatch _ => 422

def BodyError.message : BodyError → String
  | wrongType => "Form requests must have " ++
    "`Content-Type: application/x-www-form-urlencoded`"
  | tooLong => "Failed to buffer the request body: length limit exceeded"
  | mismatch cause => "Failed to deserialize form body: " ++ cause.message

def BodyError.response (e : BodyError) : Http.Response :=
  .text e.status e.message

def formType : String := "application/x-www-form-urlencoded"

/-- The longest body that is read, in octets. -/
def longestBody : Nat := 2097152

def isForm (headers : Http.Headers) : Bool :=
  ((headers.get? "content-type").bind Http.textValue?).any fun value =>
    Text.startsWith formType.toList value.toList

/-- The form a request carries. -/
def formOf (fields : List (Json.RecordField ρ)) (defaults : ρ) (request : Http.Request) :
    Except BodyError ρ :=
  if !isForm request.headers then .error .wrongType
  else if longestBody < request.body.length then .error .tooLong
  else (Form.ofBody fields defaults request.body).mapError .mismatch

/-- Goes on with the form of a request, or answers why it has none. -/
def withForm (fields : List (Json.RecordField ρ)) (defaults : ρ) (request : Http.Request)
    (next : ρ → Dialogue Reply) : Dialogue Reply :=
  match formOf fields defaults request with
  | .ok form => next form
  | .error e => pure (.ok e.response)

/-- The texts of a path's arguments, or the first name whose argument encodes no text. -/
def decodeArguments : Route.Arguments → Except String (List (String × String))
  | [] => .ok []
  | (name, segment) :: rest =>
    match Text.Percent.decodeText? segment with
    | none => .error name
    | some text => (decodeArguments rest).map ((name, text) :: ·)

/-- Goes on with the arguments of a path, or answers that one cannot be read. -/
def withArguments (arguments : Route.Arguments)
    (next : (String → Option String) → Dialogue Reply) : Dialogue Reply :=
  match decodeArguments arguments with
  | .ok texts => next fun name => texts.lookup name
  | .error name =>
    pure (.ok (.text 400 ("Invalid URL: Invalid UTF-8 in `" ++ name ++ "`")))

open Route.Endpoint in
/-- The slug that the arguments of an artifact's page make. -/
def slugOf (argument : String → Option String) : Slug :=
  ⟨(argument namespaceName).getD "", (argument artifactName).getD "", argument providerName⟩

def answer (endpoint : Route.Endpoint) (arguments : Route.Arguments) (request : Http.Request)
    (n : Navigation) : Dialogue Reply :=
  let authorityOf (argument : String → Option String) : String :=
    (argument Route.Endpoint.authorityId).getD ""
  let authorities := n.clients.authorities
  match endpoint with
  | .home => dashboard n
  | .login => pure (login n)
  | .logout => pure logout
  | .forbidden => pure (forbidden n)
  | .settings => settings n 200 [] ""
  | .createAuthority =>
    withForm AuthorityForm.fields {} request fun form =>
      submit n form.errors (Authorities.create authorities form.toNew)
  | .deleteAuthority =>
    withArguments arguments fun argument =>
      (Authorities.delete authorities (authorityOf argument)).bind (settle n)
  | .createKey =>
    withArguments arguments fun argument =>
      withForm KeyForm.fields {} request fun form =>
        submit n form.errors (Keys.create authorities (authorityOf argument) form.toNew)
  | .deleteKey =>
    withArguments arguments fun argument =>
      (Keys.delete authorities (authorityOf argument)
        ((argument Route.Endpoint.keyId).getD "")).bind (settle n)
  | .createApiKey =>
    withArguments arguments fun argument =>
      withForm ApiKeyForm.fields {} request fun form =>
        submit n form.errors (ApiKeys.create authorities (authorityOf argument) form.toNew)
  | .deleteApiKey =>
    withArguments arguments fun argument =>
      (ApiKeys.delete authorities (authorityOf argument)
        ((argument Route.Endpoint.apiKeyId).getD "")).bind (settle n)
  | .module | .moduleVersion | .provider | .providerVersion =>
    withArguments arguments fun argument =>
      artifact n (slugOf argument) (argument Route.Endpoint.versionName)

end Pages

end RegistryConsole
