import RegistryConsole.Artifact.Basic
import RegistryConsole.Instant.Elapsed
import RegistryConsole.Page.Layout
/-!
# The page of an artifact

One artifact at one of its versions, with links to all of them.
-/
namespace RegistryConsole.Page

open Markup

structure VersionLink where
  version : String
  url : String
  /-- The version the page shows. -/
  selected : Bool
  deriving DecidableEq, Repr

structure ArtifactView where
  fullName : String
  kind : String
  namespaceName : String
  /-- Empty for providers. -/
  provider : String
  version : String
  versions : List VersionLink
  updated : String
  deriving DecidableEq, Repr

/-- The version to show: the one asked for if the artifact has it, else the latest. -/
def selectVersion? (a : Artifact) : Option String → Option String
  | some version => if a.versions.contains version then some version else none
  | none => some (a.latest?.getD "")

/-- The view of an artifact, unless a version is asked for that it does not have. -/
def ArtifactView.of? (now : Instant) (requested : Option String) (a : Artifact) :
    Option ArtifactView :=
  (selectVersion? a requested).map fun version =>
    { fullName := a.fullName
      kind := match a.kind with
        | .module _ => "Module"
        | .provider => "Provider"
      namespaceName := a.namespaceName
      provider := a.kind.provider?.getD ""
      version
      versions := a.versions.map fun v => ⟨v, a.versionUrl v, v == version⟩
      updated := Instant.timeSince a.updatedAt now }

structure ArtifactPage where
  title : String
  companyName : String
  userName : String
  artifact : Except String ArtifactView

def VersionLink.markup (v : VersionLink) : Markup :=
  lit "\n    <li>\n      " ++
  (if v.selected then lit "<strong>" ++ put v.version ++ lit "</strong>"
    else lit "<a href=\"" ++ put v.url ++ lit "\">" ++ put v.version ++ lit "</a>") ++
  lit "\n    </li>\n    "

def ArtifactView.markup (v : ArtifactView) : Markup :=
  lit "\n<article id=\"artifact\">\n  <h1>" ++ put v.fullName ++ lit "</h1>\n  <p>" ++
    put v.kind ++ lit " by " ++ put v.namespaceName ++ lit "</p>\n  " ++
    only (!v.provider.isEmpty) (lit "<p>Provider: " ++ put v.provider ++ lit "</p>") ++
    lit "\n  <p>Version <strong>" ++ put v.version ++ lit "</strong>, updated " ++
    put v.updated ++ lit "</p>\n\n  <h2>Versions</h2>\n  <ul>\n    " ++
    each v.versions VersionLink.markup ++ lit "\n  </ul>\n</article>\n"

def ArtifactPage.markup (p : ArtifactPage) : Markup :=
  layout (put p.title ++ lit " - " ++ put p.companyName ++ lit " Registry")
      (account p.userName) <|
    lit "\n" ++
    (match p.artifact with
      | .ok view => view.markup
      | .error message => lit "\n" ++ failure message ++ lit "\n") ++
    lit "\n"

end RegistryConsole.Page
