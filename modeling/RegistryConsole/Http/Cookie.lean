import RegistryConsole.Http.Header
import RegistryConsole.Text.Blank
import RegistryConsole.Text.Percent
import RegistryConsole.Text.Split
/-!
# Cookies

The cookies a browser sends: names with values between semicolons, percent-encoded. A part
without a name or without an equals sign is passed over, and so is one that encodes no text.
-/
namespace RegistryConsole.Http

open Text

def cookie? (part : List Char) : Option (String × String) :=
  match cut '=' part with
  | (_, none) => none
  | (name, some value) =>
    let name := trimChars name
    if name.isEmpty then none
    else do
      let name ← Percent.decodeText? name
      let value ← Percent.decodeText? (trimChars value)
      return (name, value)

def cookies (headers : Headers) : List (String × String) :=
  (headers.filter (·.1 = "cookie")).flatMap fun (_, value) =>
    (split ';' value.toList).filterMap cookie?

/-- The value of a cookie; of several with one name the last counts. -/
def cookieValue? (name : String) (headers : Headers) : Option String :=
  (cookies headers).reverse.lookup name

end RegistryConsole.Http
