import RegistryConsole.Startup.Launch
import RegistryConsole.Text.Utf8
/-!
# The command line

Launches the console of the working directory: reads the files and the variables a launch depends
on, writes the log and what was said beside it, and ends with the code of the launch.
-/
namespace RegistryConsole.CommandLine

open Text

def textOf? (path : String) : IO (Option String) := do
  try
    return some (← IO.FS.readFile path)
  catch _ =>
    return none

/-- The first file of a name in the directories of a path, the innermost first. The parts of the
path are given in reverse. -/
def nearest? (name : String) : List (List Char) → IO (Option String)
  | [] => return none
  | part :: outer => do
    let directory := String.ofList (join ['/'] (part :: outer).reverse)
    match ← textOf? (directory ++ "/" ++ name) with
    | some text => return some text
    | none => nearest? name outer

def processVariables : IO Configuration.Environment := do
  let bytes ←
    try IO.FS.readBinFile "/proc/self/environ"
    catch _ => pure .empty
  let entries := split '\x00' (Utf8.decodeLossyChars bytes.toList)
  return entries.filterMap fun entry =>
    match entry.dropWhile (· ≠ '=') with
    | [] => none
    | _ :: value => some (String.ofList (entry.takeWhile (· ≠ '=')), String.ofList value)

/-- What a launch in the working directory depends on. Its address is left unbound. -/
def workingSurroundings : IO Startup.Surroundings := do
  let directory := (← IO.currentDir).toString
  let path := Configuration.filePath directory
  return {
    path
    file := ← textOf? path
    assignments := ← nearest? ".env" (split '/' directory.toList).reverse
    environment := ← processVariables
    bindFault := fun _ => none }

end RegistryConsole.CommandLine

open RegistryConsole

/-- Ends with zero where a console can serve, and with the code of a failure else. -/
def main : IO UInt32 := do
  let report := Startup.launch (← CommandLine.workingSurroundings)
  for entry in report.logs do
    IO.println entry.toJson.text
  for complaint in report.complaints do
    IO.eprintln complaint
  return if report.serving.isSome then 0 else UInt32.ofNat Startup.failureCode
