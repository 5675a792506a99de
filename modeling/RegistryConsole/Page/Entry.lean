import RegistryConsole.Page.Layout
import RegistryConsole.RuntimeDocument
import RegistryConsole.Text.Case
/-!
# Pages outside the registry's data

The sign-in page, the page for users who are not admitted, and the page for unknown paths.
-/
namespace RegistryConsole.Page

open Markup

structure ProviderLink where
  label : String
  url : String
  deriving DecidableEq, Repr

structure Login where
  companyName : String
  providers : List ProviderLink
  deriving DecidableEq, Repr

def Login.of (runtime : RuntimeConfiguration) : Login :=
  { companyName := runtime.companyName
    providers := runtime.oauthProviders.map fun provider =>
      ⟨Text.capitalise provider, runtime.loginUrl provider⟩ }

def ProviderLink.markup (p : ProviderLink) : Markup :=
  lit "\n  <a class=\"provider\" href=\"" ++ put p.url ++ lit "\">Continue with " ++
    put p.label ++ lit "</a>\n  "

def Login.markup (p : Login) : Markup :=
  layout (lit "Sign in to " ++ put p.companyName ++ lit " Registry") [] <|
    lit "\n<section id=\"login\">\n  <h1>" ++ put p.companyName ++
    lit " Registry</h1>\n  <p>Sign in to continue.</p>\n  " ++
    each p.providers ProviderLink.markup ++
    lit "\n</section>\n"

structure Forbidden where
  companyName : String
  userName : String
  deriving DecidableEq, Repr

def Forbidden.markup (p : Forbidden) : Markup :=
  layout (put p.companyName ++ lit " Registry: access denied") (account p.userName) <|
    lit "\n<section id=\"forbidden\">\n  <h1>403</h1>\n  <p>You are signed in as <strong>" ++
    put p.userName ++
    lit ("</strong>, but this account is not allowed to use the registry console.</p>\n" ++
      "  <a href=\"/logout\">Sign in with another account</a>\n</section>\n")

structure NotFound where
  path : String
  deriving DecidableEq, Repr

def NotFound.markup (p : NotFound) : Markup :=
  layout (lit "Page not found") [] <|
    lit "\n<section id=\"not-found\">\n  <h1>404</h1>\n  <p>Nothing lives at <code>" ++
    put p.path ++
    lit "</code>.</p>\n  <a href=\"/\">Back to the dashboard</a>\n</section>\n"

end RegistryConsole.Page
