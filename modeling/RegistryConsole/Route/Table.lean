import RegistryConsole.Guard.Condition
import RegistryConsole.Route.Endpoint
/-!
# The table of routes

The conditions an endpoint is reached under, and where a navigation goes that does not meet them.
Whatever has no route of its own takes the one for unknown paths.
-/
namespace RegistryConsole

/-- A named group of endpoints with the same conditions. -/
structure Route where
  name : String
  conditions : List Condition
  fallback : String
  deriving DecidableEq, Repr

namespace Route

def homePath : String := "/"

def loginPath : String := "/login"

def forbiddenPath : String := "/forbidden"

def settingsPath : String := "/settings"

/-- A route of the conditions every route has and of its own. -/
def make (name : String) (own : List Condition) (fallback : String) : Route :=
  { name, conditions := Condition.base ++ own, fallback }

/-- The conditions of pages that show data of the registry. -/
def signedIn : List Condition :=
  [.isAuthenticated true, .isAuthorized forbiddenPath]

def unknown : Route :=
  make "not_found" [.isAuthenticated true] loginPath

def of : Endpoint → Route
  | .home => make "home" signedIn loginPath
  | .login => make "login" [.isAuthenticated false] homePath
  | .logout => make "logout" [.isAuthenticated true, .logOut] loginPath
  | .forbidden => make "forbidden" [.isAuthenticated true] loginPath
  | .settings | .createAuthority | .deleteAuthority | .createKey | .deleteKey | .createApiKey
  | .deleteApiKey => make "settings" signedIn loginPath
  | .module | .moduleVersion => make "module" signedIn loginPath
  | .provider | .providerVersion => make "provider" signedIn loginPath

/-- The route of the pattern a path matched, if it matched one. -/
def find (pattern : Option String) : Route :=
  match pattern.bind fun text => Endpoint.all.find? (·.pattern.text = text) with
  | some endpoint => of endpoint
  | none => unknown

def guard (r : Route) : Guard Registry.Dialogue Navigation ConsoleError :=
  .ofConditions r.conditions r.fallback

end Route

end RegistryConsole
