import Backtrack.Program.Run

/-!
# The program as a command

What a command line makes of the program: an exit code, an output, and a log. Bad arguments end it
with the code 2 and every other error with the code 1, after a report in the log.
-/

namespace Backtrack.Program

/-- What a command leaves behind. -/
structure Finished where
  code : Nat
  output : List UInt8 := []
  log : String := ""

/-! ## §1. Texts -/

/-- The name of the program and its version. -/
def versionText : String := "braid-cli 0.1.0\n"

/-- How the program is used: the opening that both forms of help share. -/
def usageText : String :=
  "\n".intercalate [
    "Interactive console for the Braid parser combinator library", "",
    "Usage: braid [OPTIONS] [EXPR]...", "", ""]

/-- How the program is used, with a line for each argument and option. -/
def summaryText : String :=
  usageText ++ "\n".intercalate [
    "Arguments:",
    "  [EXPR]...  Expressions to parse once; the interactive console starts when none are given",
    "", "Options:",
    "  -c, --config <CONFIG>        Path to configuration file (TOML)",
    "  -r, --rule <RULE>            Grammar rule used to parse input, overriding the " ++
      "configuration [possible values: function, expression]",
    "      --log-level <LOG_LEVEL>  Log level (off, error, warn, info, debug, trace) " ++
      "[default: warn]",
    "  -h, --help                   Print help (see more with '--help')",
    "  -V, --version                Print version", ""]

/-- How the program is used, in full. -/
def helpText : String :=
  let indent := "          "
  usageText ++ "\n".intercalate [
    "Arguments:", "  [EXPR]...",
    indent ++ "Expressions to parse once; the interactive console starts when none are given",
    "", "Options:", "  -c, --config <CONFIG>",
    indent ++ "Path to configuration file (TOML)",
    "", "  -r, --rule <RULE>",
    indent ++ "Grammar rule used to parse input, overriding the configuration",
    "", indent ++ "Possible values:",
    indent ++ "- function:   A single function application, e.g. \x60(add 1 2)\x60",
    indent ++ "- expression: Any expression, including bare literals and identifiers",
    "", "      --log-level <LOG_LEVEL>",
    indent ++ "Log level (off, error, warn, info, debug, trace)", indent,
    indent ++ "[default: warn]",
    "", "  -h, --help",
    indent ++ "Print help (see a summary with '-h')",
    "", "  -V, --version",
    indent ++ "Print version", ""]

/-- What is written for a flag. -/
def Flag.text : Flag → String
  | help => helpText
  | summary => summaryText
  | version => versionText

/-! ## §2. The log -/

/-- An event of the command itself. -/
def commandEvent (level : Log.Level) (message : String) (details : List (String × String)) :
    Log.Event where
  level
  source := "braid"
  message
  details

/-- The filter of a level's name, and a complaint if there is no such level. -/
def filterOf (level : String) : Log.Filter × String :=
  match Log.Filter.ofName? level with
  | some filter => (filter, "")
  | none => (.upTo .warn, "Invalid log level: " ++ level ++ ". Using 'warn' instead.\n")

/-- What the log holds before the program runs. -/
def openingLog (arguments : Arguments) : String :=
  let (filter, complaint) := filterOf arguments.logLevel
  complaint ++ Log.render filter
    [commandEvent .info "Starting Braid" [("log_level", filter.name)],
      commandEvent .debug "Parsed arguments" [("args", arguments.inspect)]]

/-- The last event: a report of the error, or none to report. -/
def closingEvent : Option ProgramError → Log.Event
  | none => commandEvent .info "Completed successfully" []
  | some error => commandEvent .error ("Failed\n" ++ error.report.render .ascii) []

/-- The exit code of a run. -/
def exitCode : Option ProgramError → Nat
  | none => 0
  | some _ => 1

/-! ## §3. Commands -/

/-- What a command that makes no sense leaves behind. -/
def Finished.ofArgumentError (error : ArgumentError) : Finished :=
  { code := 2, log := error.message ++ "\n" }

/-- What a flag leaves behind. -/
def Finished.ofFlag (flag : Flag) : Finished :=
  { code := 0, output := Text.encode flag.text.toList }

/-- What a run leaves behind. -/
def Finished.ofCompletion (arguments : Arguments) (completion : Completion) : Finished where
  code := exitCode completion.error
  output := completion.sink.bytes
  log :=
    let events := completion.events ++ [closingEvent completion.error]
    openingLog arguments ++ Log.render (filterOf arguments.logLevel).1 events

/-- Carries out a command line. -/
def World.execute (world : World) (arguments : List Text) : Finished :=
  match Invocation.ofArguments arguments with
  | .error error => .ofArgumentError error
  | .ok (.show flag) => .ofFlag flag
  | .ok (.run arguments) => .ofCompletion arguments (world.run arguments)

end Backtrack.Program
