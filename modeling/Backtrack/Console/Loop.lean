import Backtrack.Console.Evaluate
import Backtrack.Console.Settings

/-!
# The console's loop

A console writes its prompt, reads a line, and evaluates it without the blanks around it, until the
input ends or the line is the exit command. Blank lines are passed over.
-/

namespace Backtrack

open Backtrack.Language (RuleName)

/-! ## §1. Lines of input -/

/-- The octets without the carriage return at their end, if they have one. -/
def dropReturn : List UInt8 → List UInt8
  | [] => []
  | [octet] => if octet = 13 then [] else [octet]
  | octet :: rest => octet :: dropReturn rest

/-- The lines of an input, without their ends. What follows the last line feed is a line if it is
not empty, and keeps a carriage return. -/
def linesFrom (current : List UInt8) : List UInt8 → List (List UInt8)
  | [] => if current.isEmpty then [] else [current.reverse]
  | octet :: rest =>
    if octet = 10 then dropReturn current.reverse :: linesFrom [] rest
    else linesFrom (octet :: current) rest

/-- The lines of an input. -/
def inputLines (input : List UInt8) : List (List UInt8) := linesFrom [] input

/-! ## §2. The loop -/

/-- How many lines were parsed and how many rejected. -/
structure Summary where
  parsed : Nat := 0
  rejected : Nat := 0
  deriving DecidableEq, Repr

/-- The summary with one more line. -/
def Summary.count (summary : Summary) (parsed : Bool) : Summary :=
  if parsed then { summary with parsed := summary.parsed + 1 }
  else { summary with rejected := summary.rejected + 1 }

namespace Console

/-- Answers a line that has been read. Nothing is given back if the session ends with it. -/
def answer (session : Session RuleName Expression) (settings : Settings) (summary : Summary)
    (octets : List UInt8) : Action (Option Summary) :=
  match Text.decode? octets with
  | none => throw .notText
  | some text =>
    let line := Text.trim text
    if settings.isExit line then pure none
    else if line.isEmpty then pure summary
    else do
      let parsed ← evaluate session line
      pure (summary.count parsed)

/-- Reads lines until they end or one is the exit command. -/
def readLines (session : Session RuleName Expression) (settings : Settings) (summary : Summary) :
    List (List UInt8) → Action Summary
  | [] => do
    write settings.prompt.toString
    write "\n"
    pure summary
  | octets :: rest => do
    write settings.prompt.toString
    match ← answer session settings summary octets with
    | some summary => readLines session settings summary rest
    | none => pure summary

/-- A session has ended. -/
def endedEvent (summary : Summary) : Log.Event where
  level := .info
  source := "braid_cli::repl"
  message := "Console session ended"
  details := [("parsed", toString summary.parsed), ("rejected", toString summary.rejected)]

/-- Runs a session on an input. -/
def runSession (session : Session RuleName Expression) (settings : Settings)
    (input : List UInt8) : Action Summary := do
  let summary ← readLines session settings {} (inputLines input)
  note (endedEvent summary)
  pure summary

end Console

end Backtrack
