import RegistryConsole.Page.Markup
/-!
# The layout of pages

What all pages have in common: a title, links to the main pages, the user's account and the
content.
-/
namespace RegistryConsole.Page

open Markup

def layout (title account content : Markup) : Markup :=
  lit ("<!DOCTYPE html>\n<html lang=\"en\">\n<head>\n  <meta charset=\"utf-8\">\n" ++
    "  <meta name=\"viewport\" content=\"width=device-width, initial-scale=1\">\n  <title>") ++
  title ++
  lit ("</title>\n</head>\n<body>\n  <header>\n    <nav>\n      <a href=\"/\">Dashboard</a>\n" ++
    "      <a href=\"/settings\">Settings</a>\n      ") ++
  account ++
  lit "\n    </nav>\n  </header>\n  <main>\n    " ++
  content ++
  lit "\n  </main>\n</body>\n</html>"

def account (userName : String) : Markup :=
  lit "<span>" ++ put userName ++ lit "</span> <a href=\"/logout\">Log out</a>"

/-- A message where data could not be had. -/
def failure (message : String) : Markup :=
  lit "<p class=\"error\">" ++ put message ++ lit "</p>"

end RegistryConsole.Page
