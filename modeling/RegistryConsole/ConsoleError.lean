import RegistryConsole.Json.Printer
/-!
# Errors of the console

What can go wrong on the console's own side, with the text for the log and the answer a browser
gets. Only a configuration error tells the browser its cause.
-/
namespace RegistryConsole

inductive ConsoleError where
  | session (cause : String)
  | precondition (name : String) (cause : String)
  | internal (cause : String)
  | config (cause : String)
  deriving DecidableEq, Repr

namespace ConsoleError

def message : ConsoleError → String
  | session cause => "Session error: " ++ cause
  | precondition name cause => "Precondition '" ++ name ++ "' failed: " ++ cause
  | internal cause => "Internal server error: " ++ cause
  | config cause => "Configuration error: " ++ cause

/-- Every error is the server's. -/
def status (_ : ConsoleError) : Nat := 500

def shortMessage : ConsoleError → String
  | session _ => "Session error"
  | precondition .. => "Navigation could not be completed"
  | internal _ => "Internal server error"
  | config _ => "Configuration error"

def details? : ConsoleError → Option String
  | config cause => some cause
  | _ => none

/-- The answer's body, with its members in the order of the answer. -/
def body (e : ConsoleError) : String :=
  let details := match e.details? with
    | some cause => [("details", Json.string cause)]
    | none => []
  (Json.object (("error", .string e.shortMessage) :: details)).text

end ConsoleError

end RegistryConsole
