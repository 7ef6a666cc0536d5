import Backtrack.Decimal.Notation
import Backtrack.Text.Offset
import Backtrack.Text.Quoted

/-!
# Expressions

The expressions of a small language in which a function stands in front of its arguments: texts,
whole numbers, decimals, names, and functions applied to any number of expressions.
-/

namespace Backtrack

/-- An expression. -/
inductive Expression where
  /-- A text, without the quotation marks it is written in. -/
  | string (text : Text)
  | integer (n : Int)
  | double (x : Float)
  /-- A name. -/
  | identifier (name : Text)
  /-- A function, by its name, applied to arguments. -/
  | application (name : Text) (arguments : List Expression)

namespace Expression

/-! ## §1. Equality -/

mutual

/-- Equality of expressions. A decimal that is no number differs from itself, and with it every
expression that holds it. -/
def beq : Expression → Expression → Bool
  | string a, string b => a == b
  | integer m, integer n => m == n
  | double x, double y => x == y
  | identifier a, identifier b => a == b
  | application f as, application g bs => f == g && beqAll as bs
  | _, _ => false

/-- Equality of lists of expressions. -/
def beqAll : List Expression → List Expression → Bool
  | [], [] => true
  | a :: as, b :: bs => beq a b && beqAll as bs
  | _, _ => false

end

instance : BEq Expression := ⟨beq⟩

/-! ## §2. Displayed expressions -/

/-- The name of an identifier or a function, displayed. -/
def displayName (name : Text) : String :=
  "Identifier(" ++ name.toString ++ ")"

mutual

/-- The expression as it is displayed: the kind of each part, with its content in parentheses. The
text of a string is not escaped. -/
def display : Expression → String
  | string text => "String(\"" ++ Text.toString text ++ "\")"
  | integer n => "Integer(" ++ toString n ++ ")"
  | double x => "Double(" ++ Decimal.write .plain x ++ ")"
  | identifier name => displayName name
  | application name arguments =>
    "Function(" ++ displayName name ++ ", Args(" ++ displayAll arguments ++ "))"

/-- The displayed expressions, with a comma and a blank between them. -/
def displayAll : List Expression → String
  | [] => ""
  | [argument] => argument.display
  | argument :: rest => argument.display ++ ", " ++ displayAll rest

end

/-! ## §3. Expressions laid open -/

/-- The record of a name. -/
def inspectName (name : Text) : String :=
  "Identifier \x7b name: " ++ Text.quote name ++ " \x7d"

mutual

/-- How the expression is made up. -/
def inspect : Expression → String
  | string text => "Literal(String(" ++ Text.quote text ++ "))"
  | integer n => "Literal(Integer(" ++ toString n ++ "))"
  | double x => "Literal(Double(" ++ Decimal.write .exact x ++ "))"
  | identifier name => "Identifier(" ++ inspectName name ++ ")"
  | application name arguments =>
    "Function(Function \x7b identifier: " ++ inspectName name ++
      ", arguments: ArgumentList \x7b arguments: [" ++ ", ".intercalate (inspectAll arguments) ++
      "] \x7d \x7d)"

/-- How each of several expressions is made up. -/
def inspectAll : List Expression → List String
  | [] => []
  | argument :: rest => argument.inspect :: inspectAll rest

end

end Expression

end Backtrack
