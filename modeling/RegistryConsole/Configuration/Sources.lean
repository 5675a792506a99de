import RegistryConsole.Configuration.Document
import RegistryConsole.Configuration.Reading
/-!
# Sources of the configuration

The settings of a console: a file in a directory found from where the console runs, with the
variables of the environment laid over it.
-/
namespace RegistryConsole.Configuration

open Text

def consoleDirectory : String := "registry-frontend"

/-- The configuration file of a console that runs in a directory: the console's own directory or
one that holds it. -/
def filePath (directory : String) : String :=
  let own := (splitString '/' directory).getLast? = some consoleDirectory
  (if own then directory else directory ++ "/" ++ consoleDirectory) ++ "/config/base.yaml"

def settings (path : String) (file : Option String) (environment : Environment) :
    Except Fault Settings :=
  match file with
  | none => .error (.noFile path)
  | some text =>
    match Document.read? (some path) text with
    | none => .error (.unreadable path)
    | some tree => readSettings (overlay environment tree)

end RegistryConsole.Configuration
