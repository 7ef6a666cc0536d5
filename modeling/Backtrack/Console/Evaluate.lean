import Backtrack.Console.Sink
import Backtrack.Diagnostic.Report
import Backtrack.Expression.Language
import Backtrack.Log

/-!
# Evaluating lines

A console holds the store of its parser, its output and its log. Evaluating a line writes either the
expression that was parsed or a report of the failure, and tells which.
-/

namespace Backtrack

open Backtrack.Language (RuleName)

/-! ## §1. The console -/

/-- A console between two actions. -/
structure Console where
  store : Store RuleName Expression
  sink : Sink := {}
  /-- The events logged so far, the latest first. -/
  events : List Log.Event := []

/-- An action of the console. A fault ends it, and what was done before stays done. -/
abbrev Action (β : Type) := ExceptT Fault (StateM Console) β

namespace Console

/-- Writes a text. -/
def write (text : String) : Action Unit := do
  let console ← get
  let (sink, whole) := console.sink.write (Text.encode text.toList)
  set { console with sink }
  if whole then pure () else throw .refused

/-- Logs an event. -/
def note (event : Log.Event) : Action Unit :=
  modify fun console => { console with events := event :: console.events }

/-! ## §2. Evaluation -/

/-- A rule of the grammar has been built. -/
def resolvedEvent : Log.Event where
  level := .trace
  source := "braid::combinator::lazy"
  message := "Resolving deferred parser"

/-- A line has been rejected. -/
def rejectedEvent (failure : Failure) : Log.Event where
  level := .debug
  source := "braid_cli::repl"
  message := "Input rejected"
  details := [("kind", failure.kind.name), ("index", toString failure.index)]

/-- Parses a line and remembers the rules built on the way. -/
def parse (session : Session RuleName Expression) (line : Text) :
    Action (Outcome (Value Expression)) := do
  let console ← get
  let (result, store, resolved) := session.run console.store line 0
  set { console with store, events := resolved.map (fun _ => resolvedEvent) ++ console.events }
  match result with
  | .ok outcome => pure outcome
  | .error stop => throw (.other stop.message)

/-- The expression of a value as it is displayed. -/
def displayValue (value : Value Expression) : String :=
  match Language.ofValue? value with
  | some expression => expression.display
  | none => ""

/-- Evaluates a line, and tells whether it was parsed. -/
def evaluate (session : Session RuleName Expression) (line : Text) : Action Bool := do
  match ← parse session line with
  | .success success =>
    write "Parsed As:\n"
    write (displayValue success.value ++ "\n")
    pure true
  | .failure failure =>
    note (rejectedEvent failure)
    write ((failure.report line).render .drawn)
    pure false

end Console

end Backtrack
