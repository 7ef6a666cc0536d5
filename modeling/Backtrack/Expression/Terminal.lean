import Backtrack.Decimal.Reader
import Backtrack.Expression.Basic
import Backtrack.Numeral.Whole
import Backtrack.Pattern
import Backtrack.Value

/-!
# Terminals of the expression language

The patterns of the smallest parts of an expression, and what they become. A string holds at least
one character and no quotation mark. A decimal has a point or is one of two names; its exponent may
have a minus and never a plus. Digits of all scripts match, while only the ten of ASCII are numbers,
so a match can still be refused.
-/

namespace Backtrack.Expression

/-! ## §1. Patterns -/

/-- The source of the pattern of a string. -/
def stringSource : Text := "\"([^\"]+)\"".toList

/-- The source of the pattern of a decimal. -/
def doubleSource : Text := "-?(((\\.\\d+|\\d+\\.\\d*)([eE]-?\\d+)?)|Infinity|NaN)".toList

/-- The source of the pattern of a whole number. -/
def integerSource : Text := "\\d+".toList

/-- The source of the pattern of a name. -/
def identifierSource : Text := "[a-zA-Z_][a-zA-Z0-9_]*".toList

/-- The source of the pattern that opens an application, with the blanks behind it. -/
def openSource : Text := "\\(\\s*".toList

/-- The source of the pattern that closes an application, with the blanks before it. -/
def closeSource : Text := "\\s*\\)".toList

/-- The source of the pattern between arguments. -/
def blanksSource : Text := "\\s*".toList

def stringPattern : Pattern := (Pattern.compile? stringSource).get (by decide)

def doublePattern : Pattern := (Pattern.compile? doubleSource).get (by decide)

def integerPattern : Pattern := (Pattern.compile? integerSource).get (by decide)

def identifierPattern : Pattern := (Pattern.compile? identifierSource).get (by decide)

def openPattern : Pattern := (Pattern.compile? openSource).get (by decide)

def closePattern : Pattern := (Pattern.compile? closeSource).get (by decide)

def blanksPattern : Pattern := (Pattern.compile? blanksSource).get (by decide)

/-! ## §2. What terminals become -/

/-- A text without the quotation marks at both of its ends. -/
def unquote (text : Text) : Text :=
  ((text.dropWhile (· = '"')).reverse.dropWhile (· = '"')).reverse

/-- A quoted text becomes a string. -/
def ofQuoted : Value Expression → Value Expression
  | .text text => .atom (.string (unquote text))
  | value => value

/-- A name becomes an identifier. -/
def ofName : Value Expression → Value Expression
  | .text name => .atom (.identifier name)
  | value => value

/-- A decimal becomes a double, if it can be read as one. -/
def ofDecimal : Value Expression → Except String (Value Expression)
  | .text text =>
    match Decimal.read text with
    | .ok x => .ok (.atom (.double x))
    | .error error => .error error.message
  | value => .ok value

/-- Digits become an integer, if they can be read as one of 64 bits. -/
def ofDigits : Value Expression → Except String (Value Expression)
  | .text text =>
    match Numeral.readWhole (.signed 64) text with
    | .ok n => .ok (.atom (.integer n))
    | .error error => .error error.message
  | value => .ok value

end Backtrack.Expression
