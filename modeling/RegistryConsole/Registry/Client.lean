import RegistryConsole.Envelope.Basic
import RegistryConsole.Json.Decoder
import RegistryConsole.Json.Reader
import RegistryConsole.Keys.Casing
import RegistryConsole.Registry.Dialogue
import RegistryConsole.Url.Foreign
/-!
# Clients of the registry

A client asks below one base address and may carry the cookies of a browser. Bodies are written
in snake case and read in camel case, and every call ends in an envelope, whatever the registry
does.
-/
namespace RegistryConsole.Registry

open Text

structure Client where
  baseUrl : String
  cookie : Option String := none
  deriving DecidableEq, Repr

namespace Client

/-- The client for a base path of a registry, slashes at the end of its address dropped. -/
def under (registryUrl basePath : String) : Client :=
  { baseUrl :=
      String.ofList (registryUrl.toList.reverse.dropWhile (· = '/')).reverse ++ basePath }

def forwarding (c : Client) (cookie : Option String) : Client :=
  { c with cookie }

/-- The address of a path; whole addresses of the web stand for themselves. -/
def urlFor (c : Client) (path : String) : String :=
  if startsWith "http://".toList path.toList || startsWith "https://".toList path.toList then path
  else c.baseUrl ++ path

/-- Blanks that a body may consist of and still count as none. -/
def isBlankOctet (b : UInt8) : Bool :=
  b = 0x20 || b = 0x9 || b = 0xA || b = 0xC || b = 0xD

/-- The payload of a body: null for a blank one, its value if it is JSON, else its text. -/
def payloadOf (body : List UInt8) : Json :=
  if body.all isBlankOctet then .null
  else (Json.ofBytes? body).getD (.string (Utf8.decodeLossy body))

/-- Why no answer could be read. -/
inductive TransportError where
  | noUrl
  /-- The address is none that requests can be sent to. -/
  | unsendable (address : String)
  | nothing (url : Url)
  | cutShort

def TransportError.message : TransportError → String
  | .noUrl => "builder error"
  | .unsendable address => "builder error for url (" ++ address ++ ")"
  | .nothing url => "error sending request for url (" ++ url.messageText ++ ")"
  | .cutShort => "error decoding response body"

def transportFailure (e : TransportError) : Envelope α :=
  .ofFailure (.message e.message)

def typed (decode : Json.Decoder α) : Envelope Json → Envelope α
  | .ok data =>
    match decode data with
    | .ok a => .ok a
    | .error mismatch =>
      .failed (some Envelope.defaultStatus)
        (some (.string ("invalid response payload: " ++ mismatch.message)))
  | .error message details => .error message details

def receive (url : Url) (decode : Json.Decoder α) : Answer → Envelope α
  | .response status body =>
    typed decode (.ofResponse status (Keys.mapKeys Keys.toCamel (payloadOf body)))
  | .nothing => transportFailure (.nothing url)
  | .cutShort => transportFailure .cutShort

/-- Characters that may stand in a host but not in the address of a request. -/
def unsendableChars : List Char := ['"', '\x60', '\x7b', '\x7d']

def isSendable (url : Url) : Bool :=
  (url.scheme = "http".toList || url.scheme = "https".toList) &&
    !url.host.chars.any unsendableChars.contains

/-- Sends one request, if the path has an address to send it to. -/
def send (c : Client) (method : Method) (path : String) (body : Option Json)
    (decode : Json.Decoder α) : Dialogue (Envelope α) :=
  let address := c.urlFor path
  match Url.ofString? address with
  | none =>
    .done (transportFailure (((Url.foreign? address.toList).map fun text =>
      TransportError.unsendable (String.ofList text)).getD .noUrl))
  | some url =>
    if isSendable url then
      .ask { method, url, cookie := c.cookie, body := body } fun answer =>
        .done (receive url decode answer)
    else .done (transportFailure (.unsendable url.messageText))

def get (c : Client) (path : String) (decode : Json.Decoder α) : Dialogue (Envelope α) :=
  c.send .get path none decode

def delete (c : Client) (path : String) (decode : Json.Decoder α) : Dialogue (Envelope α) :=
  c.send .delete path none decode

inductive EncodeError where
  /-- A member's key is no text. -/
  | keyNotText

def EncodeError.message : EncodeError → String
  | .keyNotText => "key must be a string"

/-- Sends a body in snake case, if it can be written. -/
def sendBody (c : Client) (method : Method) (path : String) (body : Except EncodeError Json)
    (decode : Json.Decoder α) : Dialogue (Envelope α) :=
  match body with
  | .ok v => c.send method path (some (Keys.mapKeys Keys.toSnake v)) decode
  | .error e =>
    .done (.ofFailure (.message ("failed to encode request body: " ++ e.message)))

def post (c : Client) (path : String) (body : Json) (decode : Json.Decoder α) :
    Dialogue (Envelope α) :=
  c.sendBody .post path (.ok body) decode

def patch (c : Client) (path : String) (body : Json) (decode : Json.Decoder α) :
    Dialogue (Envelope α) :=
  c.sendBody .patch path (.ok body) decode

/-- A call that is refused without a request. -/
def refuse (reason : String) : Dialogue (Envelope α) :=
  .done (.badRequest reason)

end Client

end RegistryConsole.Registry
