import Backtrack.Console.Sink
import Backtrack.Diagnostic.Report

/-!
# Errors that end the program

Everything that can keep the program from doing what it was asked, and how it is reported.
-/

namespace Backtrack

/-- Why the program ends with an error. -/
inductive ProgramError where
  /-- Input or output failed. -/
  | fault (fault : Fault)
  /-- A settings file does not follow its format. -/
  | malformedSettings (message : String)
  /-- There is no settings file where one was asked for. -/
  | missingSettings (path : String)
  /-- The settings contradict what they are for. -/
  | invalidSettings (message : String)
  /-- A pattern of the grammar is no regular expression. -/
  | invalidPattern (message : String)
  /-- Some of the given expressions were not parsed. -/
  | rejected (failed total : Nat)
  deriving DecidableEq, Repr

namespace ProgramError

/-- The message of an error. -/
def message : ProgramError → String
  | fault f => "I/O error: " ++ f.message
  | malformedSettings text => "Failed to parse TOML configuration: " ++ text
  | missingSettings path => "Missing configuration file: " ++ path
  | invalidSettings text => "Validation error: " ++ text
  | invalidPattern text => "Grammar error: invalid pattern: " ++ text
  | rejected failed total => s!"{failed} of {total} expressions failed to parse"

/-- What caused the error, each the cause of the one before it. -/
def causes : ProgramError → List String
  | fault f => [f.message]
  | invalidPattern text => ["invalid pattern: " ++ text, text]
  | _ => []

/-- The code of an error. -/
def code : ProgramError → String
  | fault _ => "braid::io"
  | malformedSettings _ | missingSettings _ | invalidSettings _ => "braid::config"
  | invalidPattern _ => "braid::grammar"
  | rejected _ _ => "braid::rejected"

/-- Advice on an error. -/
def help? : ProgramError → Option String
  | malformedSettings _ | missingSettings _ | invalidSettings _ =>
    some ("check the file given with --config, braid/config.toml, " ++
      "or the user config directory")
  | _ => none

/-- The report of an error. -/
def report (error : ProgramError) : Report where
  code := error.code
  message := error.message
  causes := error.causes
  help := error.help?

end ProgramError

end Backtrack
