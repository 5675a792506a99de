import RegistryConsole.Guard.Basic
import RegistryConsole.Guard.Navigation
/-!
# Conditions of routes

The checks that routes are made of. Every route first obtains the configuration and renews the
session; both always pass, whatever the registry answers. A failing storage is an error of the
check that met it.
-/
namespace RegistryConsole

open Registry

inductive Condition where
  | loadRuntime
  | refreshSession
  /-- Whether a session can be read is as expected. -/
  | isAuthenticated (expected : Bool)
  /-- The user is among those the configuration admits. -/
  | isAuthorized (refusedTo : String)
  /-- Clears the session and fails. -/
  | logOut
  deriving DecidableEq, Repr

namespace Condition

def name : Condition → String
  | loadRuntime => "load_runtime_config"
  | refreshSession => "refresh_session"
  | isAuthenticated true => "is_authenticated"
  | isAuthenticated false => "is_anonymous"
  | isAuthorized _ => "is_authorized_user"
  | logOut => "process_log_out"

def target : Condition → Option String
  | isAuthorized refusedTo => some refusedTo
  | _ => none

/-- A failure of the storage, met by a condition. -/
def fault (c : Condition) (e : StorageError) : ConsoleError :=
  .precondition c.name e.message

/-- The verdict of a condition that only reads. -/
def verdict (expected : Bool) (session : Option Session) : Verdict :=
  .ofBool (session.isSome == expected)

def authorization (runtime : RuntimeConfiguration) : Option Session → Verdict
  | some session => .ofBool (runtime.isAuthorized session.userName)
  | none => .fail

def check (c : Condition) (n : Navigation) :
    Dialogue (Except ConsoleError Verdict × Navigation) :=
  match c with
  | loadRuntime => n.loadRuntime.map fun n => (.ok .pass, n)
  | refreshSession =>
    n.refreshSession.map fun (result, n) =>
      ((result.mapError c.fault).map fun _ => .pass, n)
  | isAuthenticated expected =>
    pure ((n.readSession.mapError c.fault).map (verdict expected), n)
  | isAuthorized _ =>
    pure ((n.readSession.mapError c.fault).map (authorization n.runtime), n)
  | logOut =>
    n.clearSession.map fun (result, n) =>
      ((result.mapError c.fault).map fun _ => .fail, n)

def precondition (c : Condition) : Precondition Dialogue Navigation ConsoleError :=
  { name := c.name, check := c.check, target := c.target }

/-- What every route runs first. -/
def base : List Condition :=
  [loadRuntime, refreshSession]

end Condition

def Guard.ofConditions (conditions : List Condition) (fallback : String) :
    Guard Dialogue Navigation ConsoleError :=
  { conditions := conditions.map Condition.precondition, fallback }

end RegistryConsole
