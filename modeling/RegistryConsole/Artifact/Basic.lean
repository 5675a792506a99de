import RegistryConsole.Instant.Basic
import RegistryConsole.Text.Case
import RegistryConsole.Version.Order
/-!
# Artifacts

Published providers and modules. A module belongs to a provider, a provider to none; the slug
names an artifact by its path segments, and its pages are linked in small letters.
-/
namespace RegistryConsole

inductive ArtifactKind where
  | provider
  | module (provider : String)
  deriving DecidableEq, Repr, Inhabited

namespace ArtifactKind

/-- The first segment of an artifact's pages. -/
def category : ArtifactKind → String
  | provider => "providers"
  | module _ => "modules"

def provider? : ArtifactKind → Option String
  | provider => none
  | module p => some p

end ArtifactKind

/-- Path segments that identify an artifact. -/
structure Slug where
  namespaceName : String
  name : String
  /-- Modules have one. -/
  provider : Option String
  deriving DecidableEq, Repr

namespace Slug

def segments (s : Slug) : List String :=
  [s.namespaceName, s.name] ++ s.provider.toList

/-- The segments with slashes between them. -/
def joined (s : Slug) : String :=
  "/".intercalate s.segments

/-- The path relative to the artifacts of the registry. -/
def path (s : Slug) : String :=
  "/" ++ s.joined

/-- Whether a segment is empty, so that the slug identifies nothing. -/
def isEmpty (s : Slug) : Bool :=
  s.segments.any (·.isEmpty)

end Slug

structure Artifact where
  id : String := ""
  fullName : String := ""
  namespaceName : String := ""
  name : String := ""
  kind : ArtifactKind := .provider
  versions : List String := []
  createdAt : Instant := ⟨0, 0⟩
  updatedAt : Instant := ⟨0, 0⟩
  deriving DecidableEq, Repr, Inhabited

structure NewArtifact where
  namespaceName : String
  name : String
  kind : ArtifactKind
  version : String
  deriving DecidableEq, Repr

namespace Artifact

def normalized (a : Artifact) : Artifact :=
  { a with versions := Version.newestFirst a.versions }

/-- The first version, which is the latest of a normalised artifact. -/
def latest? (a : Artifact) : Option String :=
  a.versions.head?

def slug (a : Artifact) : Slug :=
  ⟨a.namespaceName, a.name, a.kind.provider?⟩

/-- The page of an artifact without a version, letters as they are. -/
def basePath (a : Artifact) : String :=
  "/" ++ a.kind.category ++ "/" ++ a.slug.joined

def versionUrl (a : Artifact) (version : String) : String :=
  Text.toLower (a.basePath ++ "/" ++ version)

/-- The page of the latest version, or of the artifact if it has no versions. -/
def url (a : Artifact) : String :=
  match a.latest? with
  | some version => a.versionUrl version
  | none => Text.toLower a.basePath

end Artifact

end RegistryConsole
