import Backtrack.Program.Command

/-!
# The command line

Looks at the files that the program may need, lets it speak with whoever sits at the console line by
line, and ends with its exit code.
-/

open Backtrack Backtrack.Program

/-- What a path leads to in the file system. -/
def lookUp (path : String) : IO (Option Place) := do
  try
    return some (.file (← IO.FS.readBinFile path).toList)
  catch
    | .inappropriateType _ code _ => return if code = 21 then some .directory else none
    | _ => return none

/-- The path of the user's own settings file. -/
def userSettingsPath : IO (Option String) := do
  match ← IO.getEnv "XDG_CONFIG_HOME", ← IO.getEnv "HOME" with
  | some home, _ => return some (home ++ "/braid/config.toml")
  | none, some home => return some (home ++ "/.config/braid/config.toml")
  | none, none => return none

/-- Looks at the world as far as the program may ask about it. -/
def observe (arguments : Arguments) : IO World := do
  let userSettings ← userSettingsPath
  let paths := arguments.config.toList ++ [localSettings] ++ userSettings.toList
  let places ← paths.mapM fun path => return (path, ← lookUp path)
  return { find? := fun path => (places.lookup path).join, userSettings }

/-- Reads octets up to a line feed or the end of the input. -/
partial def readLine (input : IO.FS.Stream) (line : List UInt8) : IO (List UInt8) := do
  match (← input.read 1).toList with
  | [] => return line.reverse
  | octet :: _ =>
    if octet = 10 then return (octet :: line).reverse else readLine input (octet :: line)

/-- Carries out an action of a console and writes what it has put out. -/
def perform {β : Type} (action : Action β) (console : Console) : IO (Except Fault β × Console) := do
  let (result, console) := action.run.run { console with sink := {} }
  let output ← IO.getStdout
  output.write ⟨console.sink.bytes.toArray⟩
  output.flush
  return (result, console)

/-- Speaks with whoever sits at the console until one side ends it. -/
partial def converse (ready : Ready) (summary : Summary) (console : Console) : IO Completion := do
  let (_, console) ← perform (Console.write ready.settings.prompt.toString) console
  let line := (inputLines (← readLine (← IO.getStdin) [])).head?
  let action : Action (Option Summary) :=
    match line with
    | some line => Console.answer ready.session ready.settings summary line
    | none => do
      Console.write "\n"
      return none
  let (result, console) ← perform action console
  match result with
  | .ok (some summary) => converse ready summary console
  | .ok none =>
    let (_, console) ← perform (Console.note (Console.endedEvent summary)) console
    return ⟨none, {}, console.events.reverse⟩
  | .error fault => return ⟨some (.fault fault), {}, console.events.reverse⟩

/-- Writes what a command leaves behind, and gives its exit code. -/
def finish (finished : Finished) : IO UInt32 := do
  (← IO.getStdout).write ⟨finished.output.toArray⟩
  (← IO.getStderr).putStr finished.log
  return UInt32.ofNat finished.code

def main (words : List String) : IO UInt32 := do
  match Invocation.ofArguments (words.map String.toList) with
  | .error error => finish (.ofArgumentError error)
  | .ok (.show flag) => finish (.ofFlag flag)
  | .ok (.run arguments) =>
    let world ← observe arguments
    match arguments.expressions, world.prepare arguments with
    | [], .ok ready => finish (.ofCompletion arguments (← converse ready {} ready.console))
    | _, _ => finish (.ofCompletion arguments (world.run arguments))
