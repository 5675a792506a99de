import RegistryConsole.Form.Basic
import RegistryConsole.Page.Layout
/-!
# The settings page

The authorities with their signing keys and API keys, and the forms to create and to delete them.
Above them stand the faulty fields of the form that was posted last, or what the registry made of
it.
-/
namespace RegistryConsole.Page

open Markup

structure SettingsPage where
  companyName : String
  userName : String
  authorities : Except String (List Authority)
  errors : List FieldError
  /-- What the registry said to the last form, empty if there is nothing to say. -/
  notice : String

def errorLine (e : FieldError) : Markup :=
  lit "\n  <li><strong>" ++ put e.field ++ lit "</strong>: " ++ put e.message ++ lit "</li>\n  "

def errorList (errors : List FieldError) : Markup :=
  lit "\n<ul class=\"errors\">\n  " ++ each errors errorLine ++ lit "\n</ul>\n"

def noticeLine (notice : String) : Markup :=
  lit "\n<p class=\"notice\">" ++ put notice ++ lit "</p>\n"

def newAuthorityForm : Markup :=
  lit ("<section id=\"new-authority\">\n  <h2>New authority</h2>\n" ++
    "  <form method=\"post\" action=\"/settings/authorities\">\n" ++
    "    <label>Name <input type=\"text\" name=\"name\"></label>\n" ++
    "    <label>Policy URL <input type=\"text\" name=\"policy_url\"></label>\n" ++
    "    <label><input type=\"checkbox\" name=\"is_public\"> Public</label>\n" ++
    "    <button type=\"submit\">Create</button>\n  </form>\n</section>")

def keyItem (authorityId : String) (k : Key) : Markup :=
  lit "\n        <li>\n          " ++ put k.keyId ++
    lit "\n          <form method=\"post\" action=\"/settings/authorities/" ++ put authorityId ++
    lit "/keys/" ++ put k.id ++
    lit ("/delete\">\n            <button type=\"submit\">Delete</button>\n" ++
      "          </form>\n        </li>\n        ")

def apiKeyItem (authorityId : String) (k : ApiKey) : Markup :=
  lit "\n        <li>\n          " ++ put k.name ++
    lit "\n          <form method=\"post\" action=\"/settings/authorities/" ++ put authorityId ++
    lit "/api-keys/" ++ put k.id ++
    lit ("/delete\">\n            <button type=\"submit\">Revoke</button>\n" ++
      "          </form>\n        </li>\n        ")

/-- The signing keys of an authority and the form to add one. -/
def keyBlock (a : Authority) : Markup :=
  lit "\n      <h3>Signing keys</h3>\n      <ul>\n        " ++ each a.keys (keyItem a.id) ++
    lit "\n      </ul>\n      <form method=\"post\" action=\"/settings/authorities/" ++ put a.id ++
    lit ("/keys\">\n        <label>Key ID <input type=\"text\" name=\"key_id\"></label>\n" ++
      "        <label>ASCII armor <textarea name=\"ascii_armor\"></textarea></label>\n" ++
      "        <label>Trust signature <textarea name=\"trust_signature\"></textarea></label>\n" ++
      "        <button type=\"submit\">Add key</button>\n      </form>\n")

/-- The API keys of an authority and the form to create one. -/
def apiKeyBlock (a : Authority) : Markup :=
  lit "\n      <h3>API keys</h3>\n      <ul>\n        " ++ each a.apiKeys (apiKeyItem a.id) ++
    lit "\n      </ul>\n      <form method=\"post\" action=\"/settings/authorities/" ++ put a.id ++
    lit ("/api-keys\">\n        <label>Name <input type=\"text\" name=\"name\"></label>\n" ++
      "        <button type=\"submit\">Create API key</button>\n      </form>\n")

def authorityArticle (a : Authority) : Markup :=
  lit "\n    <article>\n      <h2>" ++ put a.name ++ lit "</h2>\n      " ++
    only a.isPublic (lit "<span>public</span>") ++ lit "\n      " ++
    only (!a.policyUrl.isEmpty)
      (lit "<a href=\"" ++ put a.policyUrl ++ lit "\">Policy</a>") ++
    lit "\n      <form method=\"post\" action=\"/settings/authorities/" ++ put a.id ++
    lit ("/delete\">\n        <button type=\"submit\">Delete authority</button>\n" ++
      "      </form>\n") ++
    keyBlock a ++ apiKeyBlock a ++ lit "    </article>\n    "

def SettingsPage.authorityBlock (p : SettingsPage) : Markup :=
  match p.authorities with
  | .ok list => lit "\n    " ++ each list authorityArticle ++ lit "\n  "
  | .error message => lit "\n    " ++ failure message ++ lit "\n  "

def SettingsPage.markup (p : SettingsPage) : Markup :=
  layout (lit "Settings - " ++ put p.companyName ++ lit " Registry") (account p.userName) <|
    lit "\n<h1>Settings</h1>\n\n" ++ only (!p.errors.isEmpty) (errorList p.errors) ++
    lit "\n\n" ++ only (!p.notice.isEmpty) (noticeLine p.notice) ++ lit "\n\n" ++
    newAuthorityForm ++ lit "\n\n<section id=\"authorities\">\n  " ++ p.authorityBlock ++
    lit "\n</section>\n"

end RegistryConsole.Page
