import RegistryConsole.Artifact.Basic
import RegistryConsole.Authority
import RegistryConsole.Instant.Elapsed
import RegistryConsole.Page.Layout
/-!
# The dashboard

The published artifacts and the authorities, each a list or the message of a failed call.
-/
namespace RegistryConsole.Page

open Markup

structure ArtifactRow where
  fullName : String
  category : String
  latest : String
  url : String
  updated : String
  deriving DecidableEq, Repr

def ArtifactRow.of (now : Instant) (a : Artifact) : ArtifactRow :=
  { fullName := a.fullName
    category := a.kind.category
    latest := a.latest?.getD ""
    url := a.url
    updated := Instant.timeSince a.updatedAt now }

structure Dashboard where
  companyName : String
  userName : String
  authorities : Except String (List Authority)
  artifacts : Except String (List ArtifactRow)

def ArtifactRow.markup (r : ArtifactRow) : Markup :=
  lit "\n      <li>\n        <a href=\"" ++ put r.url ++ lit "\">" ++ put r.fullName ++
    lit "</a>\n        <span>" ++ put r.category ++ lit "</span>\n        <span>" ++
    put r.latest ++ lit "</span>\n        <small>updated " ++ put r.updated ++
    lit "</small>\n      </li>\n      "

def authorityLine (a : Authority) : Markup :=
  lit "\n      <li>" ++ put a.name ++ lit " <small>" ++
    put (String.ofList (Text.decimal a.keys.length)) ++ lit " keys</small></li>\n      "

/-- A list with its lines, or a word where there are none. -/
def listOr (none : Markup) (items : List α) (line : α → Markup) : Markup :=
  lit "\n    " ++
  (if items.isEmpty then none
    else lit "\n    <ul>\n      " ++ each items line ++ lit "\n    </ul>\n    ") ++
  lit "\n  "

/-- The message of a failed call, as a list would stand. -/
def failureBlock (message : String) : Markup :=
  lit "\n    " ++ failure message ++ lit "\n  "

def Dashboard.artifactList (p : Dashboard) : Markup :=
  match p.artifacts with
  | .ok rows => listOr (lit "\n    <p>No artifacts published yet.</p>\n    ") rows
      ArtifactRow.markup
  | .error message => failureBlock message

def Dashboard.authorityList (p : Dashboard) : Markup :=
  match p.authorities with
  | .ok list =>
    listOr (lit "\n    <p>No authorities yet. <a href=\"/settings\">Create one</a>.</p>\n    ")
      list authorityLine
  | .error message => failureBlock message

def Dashboard.markup (p : Dashboard) : Markup :=
  layout (put p.companyName ++ lit " Registry") (account p.userName) <|
    lit "\n<section id=\"artifacts\">\n  <h2>Artifacts</h2>\n  " ++ p.artifactList ++
    lit ("\n</section>\n\n<section id=\"authorities\">\n  <h2>Authorities</h2>\n  ") ++
    p.authorityList ++ lit "\n</section>\n"

end RegistryConsole.Page
