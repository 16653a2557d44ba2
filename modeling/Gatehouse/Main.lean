import Gatehouse.CommandLine
import Gatehouse.Settings.Load

/-!
# Gatehouse.Main

The command line: reads the settings that a service would start with, and shows them without their
secrets.
-/

namespace Gatehouse.CommandLine

def usage : String :=
  "Access and refresh token service\n\n" ++
    "Usage: turnstile [OPTIONS]\n\n" ++
    "Options:\n" ++
    "      --settings <SETTINGS>  Settings file; defaults to " ++ Settings.defaultPath ++ "\n" ++
    "  -h, --help                 Print help\n" ++
    "  -V, --version              Print version"

def usageMessage : UsageError → String
  | .missingValue => "a value is required for '--settings <SETTINGS>' but none was supplied"
  | .unexpectedValue => "unexpected value for a flag"
  | .repeated => "the argument '--settings <SETTINGS>' cannot be used multiple times"
  | _ => "unexpected argument found"

def readFolder (path : String) : IO Folder := do
  let extensions := SettingsFormat.extensions.map fun e => "." ++ e.1
  let mut files := []
  for candidate in path :: extensions.map (path ++ ·) do
    match ← (IO.FS.readFile candidate).toBaseIO with
    | .ok content => files := ((Folder.names candidate).foldl Folder.step [], content) :: files
    | .error _ => pure ()
  return { files }

def readEnvironment : IO Environment := do
  let mut found := []
  for name in Settings.keys.map Environment.nameOf do
    if let some value ← IO.getEnv name then
      found := (name, value) :: found
  return found

def showSettings (path : Option String) : IO UInt32 := do
  let folder ← readFolder (path.getD Settings.defaultPath)
  match Settings.load folder (← readEnvironment) path with
  | .ok settings =>
    IO.println settings.debugText
    return 0
  | .error e =>
    IO.eprintln ("Error: " ++ e.message)
    return 1

/-- What a command line asks for, and the status that the program ends with. -/
def perform (args : List String) : IO UInt32 := do
  match settingsFile? args with
  | .ok path => showSettings path
  | .error .displayHelp =>
    IO.println usage
    return 0
  | .error .displayVersion =>
    IO.println "turnstile 0.1.0"
    return 0
  | .error e =>
    IO.eprintln ("error: " ++ usageMessage e)
    return 2

end Gatehouse.CommandLine

def main (args : List String) : IO UInt32 := Gatehouse.CommandLine.perform args
