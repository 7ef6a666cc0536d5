/-!
# Reading whole numbers

Whole numbers in decimal digits, within the range of a machine word. One sign may stand in front, a
minus only where the range goes below zero. The first fault from the left is the one reported, so a
number can be too large before a wrong character is met.
-/

namespace Backtrack.Numeral

/-- Why a text is no whole number of a range. -/
inductive WholeError where
  | empty
  | invalidDigit
  | tooLarge
  | tooSmall
  deriving DecidableEq, Repr

/-- The message of an error. -/
def WholeError.message : WholeError → String
  | empty => "cannot parse integer from empty string"
  | invalidDigit => "invalid digit found in string"
  | tooLarge => "number too large to fit in target type"
  | tooSmall => "number too small to fit in target type"

/-- The numbers of a machine word. -/
structure WordRange where
  least : Int
  greatest : Int

/-- The numbers of so many bits, from zero. -/
def WordRange.unsigned (bits : Nat) : WordRange := ⟨0, Int.pow 2 bits - 1⟩

/-- The numbers of so many bits with a sign. -/
def WordRange.signed (bits : Nat) : WordRange :=
  ⟨-Int.pow 2 (bits - 1), Int.pow 2 (bits - 1) - 1⟩

/-- Reads digits onto a value, which moves away from zero in one direction. -/
def readDigits (range : WordRange) (negative : Bool) (value : Int) :
    List Char → Except WholeError Int
  | [] => .ok value
  | c :: rest =>
    if c.isDigit then
      let digit : Int := c.toNat - '0'.toNat
      let value := if negative then value * 10 - digit else value * 10 + digit
      if range.greatest < value then .error .tooLarge
      else if value < range.least then .error .tooSmall
      else readDigits range negative value rest
    else .error .invalidDigit

/-- Reads a whole number of a range. -/
def readWhole (range : WordRange) : List Char → Except WholeError Int
  | [] => .error .empty
  | ['+'] => .error .invalidDigit
  | ['-'] => .error .invalidDigit
  | '+' :: digits => readDigits range false 0 digits
  | '-' :: digits =>
    if range.least < 0 then readDigits range true 0 digits else .error .invalidDigit
  | digits => readDigits range false 0 digits

end Backtrack.Numeral
