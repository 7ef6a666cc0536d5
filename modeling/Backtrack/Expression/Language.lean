import Backtrack.Expression.Terminal
import Backtrack.Session

/-!
# The expression language

```text
expression  := literal | identifier | application
application := "(" name ")" | "(" name arguments ")"
arguments   := expression (blanks expression)*
literal     := string | double | integer
```

Expressions and applications mention each other, so two parts of the grammar are rules: the
expressions that arguments are, and the applications that have arguments. An application is tried
without arguments first. All entry points are anchored at the end of the input.
-/

namespace Backtrack.Language

open Expression

/-! ## §1. Parts of the grammar -/

/-- The rules of the language. -/
inductive RuleName where
  /-- Any expression. -/
  | expression
  /-- An application that has arguments. -/
  | withArguments
  deriving DecidableEq, Repr

/-- A parser of the language as it is written. -/
abbrev Part := Template RuleName Expression

/-- A literal: a string, a double or an integer, in this order. -/
def literal : Part :=
  .choice
    [.mapped (.pattern stringPattern) ofQuoted, .converted (.pattern doublePattern) ofDecimal,
      .converted (.pattern integerPattern) ofDigits]

/-- Picks the name out of an application without arguments, and an empty list of arguments. -/
def bareParts (value : Value Expression) : Value Expression :=
  match value.steps 2 with
  | [_, name, _] => .pair name (.list [])
  | _ => value

/-- Picks the name and the arguments out of an application with arguments. -/
def partsWithArguments (value : Value Expression) : Value Expression :=
  match value.steps 4 with
  | [_, name, _, arguments, _] => .pair name arguments
  | _ => value

/-- An application without arguments. -/
def bareApplication : Part :=
  .mapped
    (Parser.sequenceAll (.pattern openPattern) [.pattern identifierPattern, .pattern closePattern])
    bareParts

/-- Expressions with blanks or nothing between them, at least one. -/
def arguments : Part :=
  .separated (.deferred (.rule .expression)) (.pattern blanksPattern) .atLeastOnce

/-- An application with arguments. -/
def applicationWithArguments : Part :=
  .mapped
    (Parser.sequenceAll (.pattern openPattern)
      [.pattern identifierPattern, .pattern blanksPattern, arguments, .pattern closePattern])
    partsWithArguments

/-- An application: its value is the pair of the name and the arguments. -/
def application : Part :=
  .choice [bareApplication, .deferred (.rule .withArguments)]

/-- The expression that a value is, if it is one. -/
def ofValue? : Value Expression → Option Expression
  | .atom expression => some expression
  | _ => none

/-- A name and arguments become one expression. -/
def ofParts : Value Expression → Value Expression
  | .pair (.text name) (.list arguments) =>
    .atom (.application name (arguments.filterMap ofValue?))
  | value => value

/-- Any expression. -/
def expression : Part :=
  .choice [literal, .mapped (.pattern identifierPattern) ofName, .mapped application ofParts]

/-- The rules by name. -/
def rules : List (RuleName × Part) :=
  [(.expression, expression), (.withArguments, applicationWithArguments)]

/-! ## §2. Entry points -/

/-- The grammar that starts with a part. -/
def grammarOf (root : Part) : Grammar RuleName Expression :=
  { rules, root }

/-- Applications in parts: the value is the pair of the name and the arguments. -/
def applicationGrammar : Grammar RuleName Expression :=
  grammarOf (.anchored application)

/-- All expressions. -/
def expressionGrammar : Grammar RuleName Expression :=
  grammarOf (.anchored expression)

/-- What a console accepts on a line. -/
inductive EntryRule where
  /-- Applications only. -/
  | function
  /-- All expressions. -/
  | expression
  deriving DecidableEq, Repr

/-- The name of the rule. -/
def EntryRule.name : EntryRule → String
  | function => "function"
  | expression => "expression"

/-- The rule of a name. -/
def EntryRule.ofName? : String → Option EntryRule
  | "function" => some function
  | "expression" => some expression
  | _ => none

/-- The grammar of a rule, whose value is one expression. -/
def ruleGrammar : EntryRule → Grammar RuleName Expression
  | .function => grammarOf (.anchored (.mapped application ofParts))
  | .expression => expressionGrammar

end Backtrack.Language
