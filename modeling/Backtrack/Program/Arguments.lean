import Backtrack.Expression.Language
import Backtrack.Text.Quoted
import Backtrack.Text.Split

/-!
# Command-line arguments

Options take a value: joined to a long name by an equals sign, directly behind a short name, or as
the next argument. Everything else that starts with a hyphen is a flag or unknown, and the rest are
expressions to evaluate; behind two hyphens all arguments are.

An option with a value of its own argument is *settled* only when the next known option, flag or
expression comes or the arguments end, so a fault in between is reported first.
-/

namespace Backtrack.Program

/-! ## §1. What can be asked for -/

/-- What the program is asked to do. -/
structure Arguments where
  /-- The expressions to evaluate. Without any, the console starts. -/
  expressions : List Text := []
  /-- The path of the settings file. -/
  config : Option String := none
  /-- The rule that lines are parsed with, whatever the settings say. -/
  rule : Option Language.EntryRule := none
  /-- The name of the log level. -/
  logLevel : String := "warn"
  deriving DecidableEq, Repr

/-- The options, which take a value. -/
inductive OptionName where
  | config
  | rule
  | logLevel
  deriving DecidableEq, Repr

/-- The flags, which take none. Each ends the reading of arguments. -/
inductive Flag where
  /-- How the program is used, in full. -/
  | help
  /-- How the program is used, with a line for each option. -/
  | summary
  | version
  deriving DecidableEq, Repr

/-- Why arguments make no sense. -/
inductive ArgumentError where
  /-- An option's value is missing, or none that it takes. -/
  | invalidValue (option : OptionName) (value : Option String)
  /-- An option is given twice. -/
  | repeated (option : OptionName)
  /-- No option or flag has this name. -/
  | unknown (argument : String)
  /-- A flag is given a value. -/
  | valueForFlag (flag : Flag) (value : String)
  deriving DecidableEq, Repr

/-- What the arguments come to. -/
inductive Invocation where
  | run (arguments : Arguments)
  | show (flag : Flag)
  deriving DecidableEq, Repr

/-! ## §2. Names -/

/-- What a name of an option or a flag stands for. -/
inductive Switch where
  | option (name : OptionName)
  | flag (flag : Flag)

/-- The long name of an option. -/
def OptionName.name : OptionName → String
  | config => "--config"
  | rule => "--rule"
  | logLevel => "--log-level"

/-- The name of a flag, with its hyphens. -/
def Flag.name : Flag → String
  | help => "--help"
  | summary => "-h"
  | version => "--version"

/-- What a long name stands for, without its hyphens. -/
def Switch.ofLong? (name : Text) : Option Switch :=
  match name.toString with
  | "config" => some (option .config)
  | "rule" => some (option .rule)
  | "log-level" => some (option .logLevel)
  | "help" => some (flag .help)
  | "version" => some (flag .version)
  | _ => none

/-- What a short name stands for, without its hyphen. -/
def Switch.ofShort? : Char → Option Switch
  | 'c' => some (option .config)
  | 'r' => some (option .rule)
  | 'h' => some (flag .summary)
  | 'V' => some (flag .version)
  | _ => none

/-- The message of an error. -/
def ArgumentError.message : ArgumentError → String
  | invalidValue option (some value) =>
    "error: invalid value '" ++ value ++ "' for '" ++ option.name ++ "'"
  | invalidValue option none => "error: a value is required for '" ++ option.name ++ "'"
  | repeated option => "error: the argument '" ++ option.name ++ "' cannot be used multiple times"
  | unknown argument => "error: unexpected argument '" ++ argument ++ "' found"
  | valueForFlag flag value =>
    "error: unexpected value '" ++ value ++ "' for '" ++ flag.name ++ "' found"

/-! ## §3. Reading -/

/-- Arguments that have been read in part. -/
structure Reading where
  /-- The expressions so far, the latest first. -/
  expressions : List Text := []
  config : Option String := none
  rule : Option Language.EntryRule := none
  logLevel : Option String := none
  /-- An option that has not been settled, and its value once it has been read. -/
  pending : Option (OptionName × Option Text) := none
  /-- Are all further arguments expressions? -/
  plain : Bool := false

/-- Reading goes on, ends with a flag, or fails. -/
inductive Step where
  | next (reading : Reading)
  | stop (flag : Flag)

namespace Reading

/-- Has the option been settled already? -/
def has (reading : Reading) : OptionName → Bool
  | .config => reading.config.isSome
  | .rule => reading.rule.isSome
  | .logLevel => reading.logLevel.isSome

/-- Settles an option with its value. -/
def settle (reading : Reading) (option : OptionName) (value : Text) :
    Except ArgumentError Reading :=
  if reading.has option then .error (.repeated option)
  else
    match option with
    | .config => .ok { reading with config := some value.toString }
    | .logLevel => .ok { reading with logLevel := some value.toString }
    | .rule =>
      match Language.EntryRule.ofName? value.toString with
      | some rule => .ok { reading with rule := some rule }
      | none => .error (.invalidValue .rule (some value.toString))

/-- Settles the option that is pending, if one is. -/
def settlePending (reading : Reading) : Except ArgumentError Reading :=
  match reading.pending with
  | none => .ok reading
  | some (option, none) => .error (.invalidValue option none)
  | some (option, some value) => { reading with pending := none }.settle option value

/-- Takes an option, with the value that is joined to it if there is one. -/
def takeOption (reading : Reading) (option : OptionName) (value : Option Text) :
    Except ArgumentError Step := do
  let reading ← reading.settlePending
  match value with
  | some value => return .next (← reading.settle option value)
  | none => return .next { reading with pending := some (option, none) }

/-- Takes a flag. -/
def takeFlag (reading : Reading) (flag : Flag) : Except ArgumentError Step := do
  let _ ← reading.settlePending
  return .stop flag

/-- Takes an argument with two hyphens and more. -/
def takeLong (reading : Reading) (argument : Text) : Except ArgumentError Step :=
  let name := argument.takeWhile (· ≠ '=')
  let value := (argument.dropWhile (· ≠ '=')).tail?
  match Switch.ofLong? name, value with
  | some (.option option), value => reading.takeOption option value
  | some (.flag flag), none => reading.takeFlag flag
  | some (.flag flag), some value => .error (.valueForFlag flag value.toString)
  | none, _ => .error (.unknown ("--" ++ name.toString))

/-- Takes an argument with one hyphen: a short name and what is joined to it. -/
def takeShort (reading : Reading) (name : Char) (joined : Text) : Except ArgumentError Step :=
  match Switch.ofShort? name, joined with
  | some (.option option), [] => reading.takeOption option none
  | some (.option option), '=' :: value => reading.takeOption option (some value)
  | some (.option option), value => reading.takeOption option (some value)
  | some (.flag flag), _ => reading.takeFlag flag
  | none, _ => .error (.unknown ("-" ++ name.toString))

/-- Takes an argument that is a value or an expression. -/
def takePlain (reading : Reading) (argument : Text) : Except ArgumentError Step :=
  match reading.pending, reading.plain with
  | some (option, none), false =>
    .ok (.next { reading with pending := some (option, some argument) })
  | _, _ => do
    let reading ← reading.settlePending
    return .next { reading with expressions := argument :: reading.expressions }

/-- Takes an argument. -/
def take (reading : Reading) (argument : Text) : Except ArgumentError Step :=
  if reading.plain then reading.takePlain argument
  else
    match argument with
    | ['-', '-'] => .ok (.next { reading with plain := true })
    | '-' :: '-' :: rest => reading.takeLong rest
    | '-' :: name :: rest => reading.takeShort name rest
    | _ => reading.takePlain argument

/-- Takes arguments to their end or to a flag. -/
def takeAll (reading : Reading) : List Text → Except ArgumentError Invocation
  | [] => do
    let reading ← reading.settlePending
    let default : Arguments := {}
    return .run {
      expressions := reading.expressions.reverse
      config := reading.config
      rule := reading.rule
      logLevel := reading.logLevel.getD default.logLevel }
  | argument :: rest => do
    match ← reading.take argument with
    | .next reading => reading.takeAll rest
    | .stop flag => return .show flag

end Reading

/-- What the arguments of a command line come to. -/
def Invocation.ofArguments (arguments : List Text) : Except ArgumentError Invocation :=
  Reading.takeAll {} arguments

/-! ## §4. Arguments laid open -/

/-- An optional text, as it is shown in the log. -/
def inspectOption : Option String → String
  | none => "None"
  | some text => "Some(" ++ text ++ ")"

/-- How arguments are made up. -/
def Arguments.inspect (arguments : Arguments) : String :=
  let rule :=
    arguments.rule.map fun
      | .function => "Function"
      | .expression => "Expression"
  "Args \x7b expressions: [" ++ ", ".intercalate (arguments.expressions.map Text.quote) ++
    "], config: " ++ inspectOption (arguments.config.map fun path => Text.quote path.toList) ++
    ", rule: " ++ inspectOption rule ++
    ", log_level: " ++ Text.quote arguments.logLevel.toList ++ " \x7d"

end Backtrack.Program
