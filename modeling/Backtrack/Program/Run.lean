import Backtrack.Console.Loop
import Backtrack.Program.Arguments
import Backtrack.Program.World

/-!
# Running the program

The program loads its settings, builds the grammar of the rule it was told, and either evaluates the
expressions among its arguments, all of them, or runs a console on its input.
-/

namespace Backtrack.Program

open Backtrack.Language (RuleName)

/-! ## §1. Events -/

/-- The grammar is about to be built. -/
def buildingEvent (rule : Language.EntryRule) : Log.Event where
  level := .info
  source := "braid_cli"
  message := "Building grammar"
  details := [("rule", rule.name)]

/-- The patterns of the grammar have been compiled. -/
def compiledEvent : Log.Event where
  level := .debug
  source := "braid_cli::grammar"
  message := "Compiled expression grammar"

/-- All expressions have been parsed. -/
def parsedAllEvent (count : Nat) : Log.Event where
  level := .info
  source := "braid_cli"
  message := "Parsed all expressions"
  details := [("count", toString count)]

/-! ## §2. Evaluation -/

/-- An action of a console that can end with any error of the program. -/
abbrev Task (β : Type) := ExceptT ProgramError (StateM Console) β

/-- An action whose faults are errors of the program. -/
def Task.ofAction {β : Type} (action : Action β) : Task β :=
  ExceptT.adapt ProgramError.fault action

/-- Evaluates expressions one after the other and counts those that are not parsed. -/
def evaluateAll (session : Session RuleName Expression) : List Text → Action Nat
  | [] => pure 0
  | expression :: rest => do
    let parsed ← Console.evaluate session expression
    let rejected ← evaluateAll session rest
    pure (if parsed then rejected else rejected + 1)

/-- Evaluates the expressions that were given. It is an error if any is not parsed. -/
def evaluateGiven (session : Session RuleName Expression) (expressions : List Text) :
    Task Unit := do
  let rejected ← Task.ofAction (evaluateAll session expressions)
  if 0 < rejected then throw (.rejected rejected expressions.length)
  else Task.ofAction (Console.note (parsedAllEvent expressions.length))

/-! ## §3. Runs -/

/-- A console that is ready, with the session and the settings it runs with. -/
structure Ready where
  session : Session RuleName Expression
  settings : Settings
  console : Console

/-- Makes a console ready, which takes settings and a grammar. The events so far are given back
where there is no console to keep them. -/
def World.prepare (world : World) (arguments : Arguments) :
    Except (ProgramError × List Log.Event) Ready :=
  match world.loadSettings arguments.config with
  | (.error error, events) => .error (error, events)
  | (.ok settings, events) =>
    let settings := settings.withRule arguments.rule
    match (Language.ruleGrammar settings.rule).start with
    | .error stop => .error (.fault (.other stop.message), events)
    | .ok (session, store) =>
      let events := compiledEvent :: buildingEvent settings.rule :: events
      .ok { session, settings, console := { store, sink := .limited world.room, events } }

/-- What the program does once it is ready. -/
def Ready.task (ready : Ready) (arguments : Arguments) (input : List UInt8) : Task Unit :=
  if arguments.expressions.isEmpty then do
    let _ ← Task.ofAction (Console.runSession ready.session ready.settings input)
  else evaluateGiven ready.session arguments.expressions

/-- How a run ended: its error if it has one, what it wrote, and its events in order. -/
structure Completion where
  error : Option ProgramError
  sink : Sink
  events : List Log.Event

/-- The completion of a task. -/
def Completion.ofTask (result : Except ProgramError Unit × Console) : Completion where
  error := match result.1 with
    | .ok _ => none
    | .error error => some error
  sink := result.2.sink
  events := result.2.events.reverse

/-- Runs the program. -/
def World.run (world : World) (arguments : Arguments) : Completion :=
  match world.prepare arguments with
  | .error (error, events) => ⟨some error, .limited world.room, events.reverse⟩
  | .ok ready => .ofTask ((ready.task arguments world.input).run.run ready.console)

end Backtrack.Program
