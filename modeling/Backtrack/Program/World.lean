import Backtrack.Console.StoredSettings
import Backtrack.Log
import Backtrack.Program.Error
import Backtrack.Program.FileTree

/-!
# The world around the program, and its settings files

A settings file is looked for at the path that the arguments name, and only there. Without one, the
working directory is looked through first and the user's own settings next; where there is no file
at all the defaults hold.
-/

namespace Backtrack.Program

/-- What the program can see. -/
structure World where
  /-- What a path leads to. -/
  find? : String → Option Place
  /-- The path of the user's own settings file, if there is a place for it. -/
  userSettings : Option String := none
  input : List UInt8 := []
  /-- How many octets the output takes, if there is a limit. -/
  room : Option Nat := none

/-! ## §1. Reading a settings file -/

/-- The settings in the content of a file. -/
def settingsOf (octets : List UInt8) : Except ProgramError Settings :=
  match Text.decode? octets with
  | none => .error (.fault .notText)
  | some text =>
    match Settings.ofText? text with
    | none => .error (.malformedSettings "no settings document")
    | some settings =>
      if settings.hasExit then .ok settings
      else .error (.invalidSettings "repl.exit_command must not be empty")

/-- The settings in the file at a path. -/
def World.settingsAt (world : World) (path : String) : Except ProgramError Settings :=
  match world.find? path with
  | none => .error (.missingSettings path)
  | some .directory => .error (.fault .isDirectory)
  | some (.file octets) => settingsOf octets

/-! ## §2. Looking for one -/

/-- An event of the search for settings. -/
def searchEvent (level : Log.Level) (message : String) (path : Option String) : Log.Event where
  level
  source := "braid_cli::config"
  message
  details := path.toList.map fun path => ("path", path)

/-- The path of the settings file in the working directory. -/
def localSettings : String := "braid/config.toml"

/-- The settings that hold, and the events of the search, the latest first. -/
def World.loadSettings (world : World) (explicit : Option String) :
    Except ProgramError Settings × List Log.Event :=
  let load (kind path : String) :=
    (world.settingsAt path,
      [searchEvent .info ("Loading configuration from " ++ kind ++ " path") path])
  let defaults (event : Log.Event) :=
    (.ok {},
      [searchEvent .debug "No configuration file found, using default configuration" none, event])
  match explicit, world.userSettings with
  | some path, _ => load "explicit" path
  | none, user =>
    if (world.find? localSettings).isSome then load "local" localSettings
    else
      match user with
      | some path =>
        if (world.find? path).isSome then load "system" path
        else defaults (searchEvent .debug "System configuration file not found" path)
      | none =>
        defaults (searchEvent .debug "Could not determine platform-specific config directory" none)

end Backtrack.Program
