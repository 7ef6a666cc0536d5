import Backtrack.Decimal.Binary

/-!
# Reading decimals

The decimals that can be read as doubles: digits with at most one point among them, an exponent, and
the names of infinity and of what is no number, in any case. A sign may stand in front. The result
is the nearest double.
-/

namespace Backtrack.Decimal

/-- Why a text is no decimal. -/
inductive ReadError where
  | empty
  | invalid
  deriving DecidableEq, Repr

/-- The message of an error. -/
def ReadError.message : ReadError → String
  | empty => "cannot parse float from empty string"
  | invalid => "invalid float literal"

/-- The digits at the start of a text, and what follows them. -/
def spanDigits (text : List Char) : List Char × List Char :=
  (text.takeWhile Char.isDigit, text.dropWhile Char.isDigit)

/-- The value of a word of digits. -/
def valueOf (digits : List Char) : Nat :=
  digits.foldl (fun value digit => value * 10 + (digit.toNat - '0'.toNat)) 0

/-- Splits a sign off. -/
def splitSign : List Char → Bool × List Char
  | '+' :: rest => (false, rest)
  | '-' :: rest => (true, rest)
  | rest => (false, rest)

/-- Reads the exponent at the end of a decimal. No exponent is zero. -/
def readExponent? : List Char → Option Int
  | [] => some 0
  | e :: rest =>
    if e = 'e' || e = 'E' then
      let (negative, digits) := splitSign rest
      if digits.isEmpty || !digits.all Char.isDigit then none
      else some (if negative then -(valueOf digits : Int) else valueOf digits)
    else none

/-- Reads digits with a point and an exponent: the digits as a whole number, and the power of ten it
is to be multiplied with. -/
def readDigits? (text : List Char) : Option (Nat × Int) := do
  let (whole, rest) := spanDigits text
  let (places, rest) :=
    match rest with
    | '.' :: rest => spanDigits rest
    | rest => ([], rest)
  if whole.isEmpty && places.isEmpty then none
  else
    let exponent ← readExponent? rest
    return (valueOf (whole ++ places), exponent - places.length)

/-- Reads a decimal without its sign. -/
def readUnsigned? (negative : Bool) (text : List Char) : Option Float :=
  let name := text.map Char.toLower
  if name = "inf".toList || name = "infinity".toList then
    some (withSign negative (0x7FF * Nat.pow 2 52))
  else if name = "nan".toList then
    some (withSign negative (0x7FF * Nat.pow 2 52 + Nat.pow 2 51))
  else (readDigits? text).map fun (mantissa, exponent) => nearest negative mantissa exponent

/-- Reads a decimal as a double. -/
def read (text : List Char) : Except ReadError Float :=
  if text.isEmpty then .error .empty
  else
    let (negative, rest) := splitSign text
    match readUnsigned? negative rest with
    | some x => .ok x
    | none => .error .invalid

end Backtrack.Decimal
