import RegistryConsole.Configuration.Value
/-!
# Faults of a configuration

Why there are no settings, with the wording for the log. A value that could not be turned into
what a setting needs is reported with the setting and the place it was read from; a section or a
list of another shape without them.
-/
namespace RegistryConsole.Configuration

inductive Fault where
  | noFile (path : String)
  /-- The file is not of the form that is read. -/
  | unreadable (path : String)
  | mistyped (found : Found) (wanted : String) (setting : String) (origin : Option String)
  | misshapen (found : Found) (wanted : String)
  | missing (setting : String)
  | incomplete (length : Nat) (wanted : String)

namespace Fault

def message : Fault → String
  | noFile path => "configuration file \"" ++ path ++ "\" not found"
  | unreadable path => "configuration file \"" ++ path ++ "\" cannot be read"
  | mistyped found wanted setting origin =>
    "invalid type: " ++ found.scalarText ++ ", expected " ++ wanted ++
      (if setting.isEmpty then "" else " for key `" ++ setting ++ "`") ++
      (origin.map (" in " ++ ·)).getD ""
  | misshapen found wanted =>
    "invalid type: " ++ found.structureText ++ ", expected " ++ wanted
  | missing setting => "missing field `" ++ setting ++ "`"
  | incomplete length wanted =>
    "invalid length " ++ String.ofList (Text.decimal length) ++ ", expected " ++ wanted

def joined (outer inner : String) : String :=
  if inner.isEmpty || inner.toList.head? = some '[' then outer ++ inner
  else outer ++ "." ++ inner

/-- A fault met below a setting. -/
def under (outer : String) : Fault → Fault
  | mistyped found wanted setting origin => mistyped found wanted (joined outer setting) origin
  | other => other

def inPlace (place : Nat) : Fault → Fault :=
  under ("[" ++ String.ofList (Text.decimal place) ++ "]")

end Fault

end RegistryConsole.Configuration
