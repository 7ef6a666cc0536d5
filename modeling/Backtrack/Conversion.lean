import Backtrack.Decimal.Reader
import Backtrack.Inspect
import Backtrack.Numeral.Whole
import Backtrack.Scalar

/-!
# Named conversions

The conversions of values that a grammar can ask for by name. Some always give a value, and leave
one that they are not made for as it is. The others can refuse, and say why.
-/

namespace Backtrack

/-! ## §1. Conversions that always give a value -/

/-- A conversion that always gives a value. -/
inductive Conversion where
  /-- This value, whatever is given. -/
  | const (value : Value Scalar)
  /-- A list as one text, with a text between its items. -/
  | join (between : Text)
  /-- The number of bytes of a text or of items of a list. -/
  | count
  /-- The sum of a list's whole numbers. -/
  | sum
  /-- The first value of a pair. -/
  | first
  /-- The second value of a pair. -/
  | next
  /-- The text that shows the value. -/
  | display
  /-- The value that says nothing. -/
  | unit
  /-- One more than the number in the option between two brackets, or one if there is none. -/
  | depth
  /-- The value itself. -/
  | keep

namespace Conversion

/-- An item of a list as a text. -/
def itemText : Value Scalar → Text
  | .text text => text
  | value => (value.inspect Scalar.inspect).toList

/-- The whole number that a value is, or zero. -/
def wholeOf : Value Scalar → Int
  | .atom (.whole n) => n
  | _ => 0

/-- One more than the number in an option. -/
def depthOf : Value Scalar → Int
  | .pair _ (.some (.atom (.whole n))) => n + 1
  | _ => 1

/-- Converts a value. -/
def apply : Conversion → Value Scalar → Value Scalar
  | const value, _ => value
  | join between, .list items => .text (between.intercalate (items.map itemText))
  | count, .text text => .atom (.whole text.size)
  | count, .list items => .atom (.whole items.length)
  | sum, .list items => .atom (.whole ((items.map wholeOf).foldl (· + ·) 0))
  | first, .pair value _ => value
  | next, .pair _ value => value
  | display, value => .text (value.display Scalar.inspect).toList
  | unit, _ => .unit
  | depth, .pair value _ => .atom (.whole (depthOf value))
  | _, value => value

end Conversion

/-! ## §2. Conversions that can refuse -/

/-- A conversion that can refuse. -/
inductive Check where
  /-- Always refuses, with this message. -/
  | refuse (message : String)
  /-- Refuses what has more bytes or items. -/
  | atMost (size : Nat)
  /-- Reads a whole number of a range. -/
  | whole (range : Numeral.WordRange)
  /-- Reads a decimal. -/
  | decimal
  /-- Reads a truth value. -/
  | truth
  /-- Reads a single character. -/
  | char

namespace Check

/-- The number of bytes of a text or of items of a list. -/
def sizeOf : Value Scalar → Nat
  | .text text => text.size
  | .list items => items.length
  | _ => 0

/-- Reads a truth value. -/
def readTruth (text : Text) : Except String (Value Scalar) :=
  if text = "true".toList then .ok (.atom (.truth true))
  else if text = "false".toList then .ok (.atom (.truth false))
  else .error "provided string was not `true` or `false`"

/-- Reads a single character. -/
def readChar : Text → Except String (Value Scalar)
  | [] => .error "cannot parse char from empty string"
  | [c] => .ok (.atom (.char c))
  | _ => .error "too many characters in string"

/-- Converts a text. -/
def read : Check → Text → Except String (Value Scalar)
  | whole range, text =>
    match Numeral.readWhole range text with
    | .ok n => .ok (.atom (.whole n))
    | .error error => .error error.message
  | decimal, text =>
    match Decimal.read text with
    | .ok x => .ok (.atom (.decimal x))
    | .error error => .error error.message
  | truth, text => readTruth text
  | char, text => readChar text
  | refuse message, _ => .error message
  | atMost _, text => .ok (.text text)

/-- Converts a value or refuses it. -/
def apply : Check → Value Scalar → Except String (Value Scalar)
  | refuse message, _ => .error message
  | atMost size, value => if size < sizeOf value then .error "too long" else .ok value
  | check, .text text => check.read text
  | _, _ => .error "not a string"

end Check

end Backtrack
