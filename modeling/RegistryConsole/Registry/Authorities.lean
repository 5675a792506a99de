import RegistryConsole.Authority
import RegistryConsole.Registry.Client
/-!
# Authorities at the registry

The operations on authorities and on the signing keys and API keys below them. An operation that
would put an empty identifier into its path is refused without a request.
-/
namespace RegistryConsole.Registry

open Json

/-- The base path of authorities and of all that is below them. -/
def authoritiesPath : String := "/v1/api/authorities"

namespace Authorities

def noId : String := "authority id is required"

def getAll (c : Client) : Dialogue (Envelope (List Authority)) :=
  c.get "/" (decodeList Authority.decode)

def getOne (c : Client) (id : String) : Dialogue (Envelope Authority) :=
  if id.isEmpty then Client.refuse noId else c.get ("/" ++ id) Authority.decode

def create (c : Client) (authority : NewAuthority) : Dialogue (Envelope Authority) :=
  c.post "/" authority.toJson Authority.decode

def update (c : Client) (authority : Authority) : Dialogue (Envelope Authority) :=
  if authority.id.isEmpty then Client.refuse noId
  else c.patch ("/" ++ authority.id) authority.toJson Authority.decode

def delete (c : Client) (id : String) : Dialogue (Envelope Bool) :=
  if id.isEmpty then Client.refuse noId else c.delete ("/" ++ id) decodeBool

end Authorities

namespace Keys

def noId : String := "authority id and key id are required"

def path (authorityId : String) : String :=
  "/" ++ authorityId ++ "/keys"

def pathOf (authorityId id : String) : String :=
  path authorityId ++ "/" ++ id

def getAll (c : Client) (authorityId : String) : Dialogue (Envelope (List Key)) :=
  if authorityId.isEmpty then Client.refuse Authorities.noId
  else c.get (path authorityId) (decodeList Key.decode)

def getOne (c : Client) (authorityId id : String) : Dialogue (Envelope Key) :=
  if authorityId.isEmpty || id.isEmpty then Client.refuse noId
  else c.get (pathOf authorityId id) Key.decode

def create (c : Client) (authorityId : String) (key : NewKey) : Dialogue (Envelope Key) :=
  if authorityId.isEmpty then Client.refuse Authorities.noId
  else c.post (path authorityId) key.toJson Key.decode

def update (c : Client) (authorityId : String) (key : Key) : Dialogue (Envelope Key) :=
  if authorityId.isEmpty || key.id.isEmpty then Client.refuse noId
  else c.patch (pathOf authorityId key.id) key.toJson Key.decode

def delete (c : Client) (authorityId id : String) : Dialogue (Envelope Bool) :=
  if authorityId.isEmpty || id.isEmpty then Client.refuse noId
  else c.delete (pathOf authorityId id) decodeBool

end Keys

namespace ApiKeys

def noId : String := "authority id and api key id are required"

def path (authorityId : String) : String :=
  "/" ++ authorityId ++ "/api-keys"

def pathOf (authorityId id : String) : String :=
  path authorityId ++ "/" ++ id

def getAll (c : Client) (authorityId : String) : Dialogue (Envelope (List ApiKey)) :=
  if authorityId.isEmpty then Client.refuse Authorities.noId
  else c.get (path authorityId) (decodeList ApiKey.decode)

def getOne (c : Client) (authorityId id : String) : Dialogue (Envelope ApiKey) :=
  if authorityId.isEmpty || id.isEmpty then Client.refuse noId
  else c.get (pathOf authorityId id) ApiKey.decode

def create (c : Client) (authorityId : String) (key : NewApiKey) : Dialogue (Envelope ApiKey) :=
  if authorityId.isEmpty then Client.refuse Authorities.noId
  else c.post (path authorityId) key.toJson ApiKey.decode

def update (c : Client) (authorityId : String) (key : ApiKey) : Dialogue (Envelope ApiKey) :=
  if authorityId.isEmpty || key.id.isEmpty then Client.refuse noId
  else c.patch (pathOf authorityId key.id) key.toJson ApiKey.decode

def delete (c : Client) (authorityId id : String) : Dialogue (Envelope Bool) :=
  if authorityId.isEmpty || id.isEmpty then Client.refuse noId
  else c.delete (pathOf authorityId id) decodeBool

end ApiKeys

end RegistryConsole.Registry
