import RegistryConsole.Artifact.Json
import RegistryConsole.Registry.Client
/-!
# Artifacts at the registry

The operations on published providers and modules. Whatever versions come back are put newest
first.
-/
namespace RegistryConsole.Registry

open Json

def artifactsPath : String := "/v1/api/artifacts"

namespace Artifacts

def noSlug : String := "artifact namespace and name are required"

def noId : String := "artifact id is required"

def getAll (c : Client) : Dialogue (Envelope (List Artifact)) :=
  (c.get "/" (decodeList Artifact.decode)).map (.map (List.map Artifact.normalized))

def getOne (c : Client) (slug : Slug) : Dialogue (Envelope Artifact) :=
  if slug.isEmpty then Client.refuse noSlug
  else (c.get slug.path Artifact.decode).map (.map Artifact.normalized)

def getAllVersions (c : Client) (slug : Slug) : Dialogue (Envelope (List String)) :=
  if slug.isEmpty then Client.refuse noSlug
  else (c.get (slug.path ++ "/version") (decodeList decodeString)).map (.map Version.newestFirst)

def create (c : Client) (artifact : NewArtifact) : Dialogue (Envelope Artifact) :=
  (c.post "/" artifact.toJson Artifact.decode).map (.map Artifact.normalized)

def update (c : Client) (artifact : Artifact) : Dialogue (Envelope Artifact) :=
  if artifact.id.isEmpty then Client.refuse noId
  else
    (c.patch ("/" ++ artifact.id) artifact.toJson Artifact.decode).map (.map Artifact.normalized)

def delete (c : Client) (id : String) : Dialogue (Envelope Bool) :=
  if id.isEmpty then Client.refuse noId else c.delete ("/" ++ id) decodeBool

end Artifacts

end RegistryConsole.Registry
