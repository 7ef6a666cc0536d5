import Backtrack.Decimal.Reader
import Backtrack.Text.Split
import Backtrack.Toml.Document
import Backtrack.Toml.Quoted

/-!
# Words that stand for values

A value that is neither quoted nor bracketed is a word: a truth value, a whole number in one of four
bases, a double, a date, or a time of day. Every word has one reading at most.
-/

namespace Backtrack.Toml

open Numeral (digitValue? numberOf?)

/-! ## §1. Numbers -/

/-- The digits of a word in which underscores may stand between two digits. -/
def digitsOf? (base : Nat) (word : Text) : Option Text :=
  let parts := Text.splitOn '_' word
  if parts.all fun part => !part.isEmpty && part.all fun c => (digitValue? base c).isSome then
    some parts.flatten
  else none

/-- Does a word of decimal digits have no zero in front of others? -/
def isCanonical (digits : Text) : Bool :=
  digits.head? ≠ some '0' || digits.length = 1

/-- Whole numbers that are read: they fit into 128 bits, with a sign or without. -/
def holds (value : Int) : Bool :=
  -Int.pow 2 127 ≤ value && value < Int.pow 2 128

/-- A whole number without a sign, in the base that its first characters tell. -/
def readMagnitude? : Text → Option Nat
  | '0' :: 'x' :: word => digitsOf? 16 word >>= numberOf? 16
  | '0' :: 'o' :: word => digitsOf? 8 word >>= numberOf? 8
  | '0' :: 'b' :: word => digitsOf? 2 word >>= numberOf? 2
  | word => do
    let digits ← digitsOf? 10 word
    if isCanonical digits then numberOf? 10 digits else none

/-- Splits a sign off a word. -/
def splitSign : Text → Option Char × Text
  | '+' :: word => (some '+', word)
  | '-' :: word => (some '-', word)
  | word => (none, word)

/-- A whole number. Only decimal digits may have a sign. -/
def readInteger? (word : Text) : Option Int := do
  let (sign, word) := splitSign word
  if sign.isSome && !word.all (fun c => c.isDigit || c = '_') then none
  else
    let magnitude ← readMagnitude? word
    let value : Int := if sign = some '-' then -(magnitude : Int) else magnitude
    if holds value then some value else none

/-- The digits of a double: before its point, behind it, and of its exponent with its sign. Where
there is no point or no exponent, nothing is said of it. -/
structure DoubleParts where
  whole : Text
  places : Option Text
  exponent : Option Text

/-- Takes a double without its sign apart. -/
def DoubleParts.ofWord (word : Text) : DoubleParts :=
  let isMark (c : Char) := c = 'e' || c = 'E'
  let number := word.takeWhile fun c => !isMark c
  let exponent := (word.dropWhile fun c => !isMark c).tail?
  { whole := number.takeWhile (· ≠ '.')
    places := (number.dropWhile (· ≠ '.')).tail?
    exponent }

/-- A double in digits, all of them where they must be. -/
def readDigits? (word : Text) : Option Text := do
  let parts := DoubleParts.ofWord word
  let whole ← digitsOf? 10 parts.whole
  let places ← parts.places.mapM (digitsOf? 10)
  let exponent ← parts.exponent.mapM fun exponent => do
    let (sign, digits) := splitSign exponent
    return sign.toList ++ (← digitsOf? 10 digits)
  if !isCanonical whole || (places.isNone && exponent.isNone) then none
  else
    return whole ++ (places.map ('.' :: ·)).getD [] ++ (exponent.map ('e' :: ·)).getD []

/-- A double. Digits whose number is too large for one are refused. -/
def readDouble? (word : Text) : Option Float := do
  let (sign, word) := splitSign word
  if word = "inf".toList || word = "nan".toList then
    (Decimal.read (sign.toList ++ word)).toOption
  else
    let value ← (Decimal.read (sign.toList ++ (← readDigits? word))).toOption
    if value.isInf then none else some value

/-! ## §2. Dates and times of day -/

/-- Reads so many digits whose number lies between two bounds. -/
def readField? (count least greatest : Nat) (text : Text) : Option (Nat × Text) := do
  let digits := text.take count
  if digits.length = count && digits.all Char.isDigit then
    let value ← numberOf? 10 digits
    if least ≤ value && value ≤ greatest then some (value, text.drop count) else none
  else none

/-- The number of days of a month. -/
def daysOf (year month : Nat) : Nat :=
  if month = 2 then
    if year % 4 = 0 && (year % 100 ≠ 0 || year % 400 = 0) then 29 else 28
  else if month = 4 || month = 6 || month = 9 || month = 11 then 30
  else 31

/-- What follows a date, if the text starts with one. -/
def afterDate? (text : Text) : Option Text := do
  let (year, text) ← readField? 4 0 9999 text
  let text ← Text.after? ['-'] text
  let (month, text) ← readField? 2 1 12 text
  let text ← Text.after? ['-'] text
  let (_, text) ← readField? 2 1 (daysOf year month) text
  return text

/-- What follows the seconds of a time of day and their fraction, if the text starts with them. The
60th second is a leap second. -/
def afterSeconds? (text : Text) : Option Text := do
  let (_, text) ← readField? 2 0 60 text
  match text with
  | '.' :: text =>
    if (text.takeWhile Char.isDigit).isEmpty then none else some (text.dropWhile Char.isDigit)
  | text => some text

/-- What follows a time of day, whose seconds may be left out. -/
def afterTime? (text : Text) : Option Text := do
  let (_, text) ← readField? 2 0 23 text
  let text ← Text.after? [':'] text
  let (_, text) ← readField? 2 0 59 text
  match text with
  | ':' :: text => afterSeconds? text
  | text => some text

/-- Is the text the distance from universal time, or nothing? -/
def isOffset : Text → Bool
  | [] => true
  | [c] => c = 'Z' || c = 'z'
  | c :: text =>
    (c = '+' || c = '-') &&
    (do
      let (_, text) ← readField? 2 0 23 text
      let text ← Text.after? [':'] text
      let (_, text) ← readField? 2 0 59 text
      return text.isEmpty).getD false

/-- Is the word a date, a time of day, or both? -/
def isMoment (word : Text) : Bool :=
  match afterDate? word with
  | some [] => true
  | some (c :: text) =>
    (c = 'T' || c = 't' || c = ' ') && ((afterTime? text).map isOffset).getD false
  | none => afterTime? word = some []

/-! ## §3. Words -/

/-- The value of a word. -/
def Item.ofWord? (word : Text) : Option Item :=
  if word = "true".toList then some (.boolean true)
  else if word = "false".toList then some (.boolean false)
  else if isMoment word then some (.moment word)
  else ((readInteger? word).map .integer).or ((readDouble? word).map .double)

/-- Can the character be part of a word? -/
def isWordChar (c : Char) : Bool :=
  c.isAlphanum || c = '_' || c = '-' || c = '+' || c = '.' || c = ':'

/-- Splits a text at the end of the word it starts with. A date and a time of day may have one blank
between them. -/
def splitWord (text : Text) : Text × Text :=
  let word := text.takeWhile isWordChar
  match text.dropWhile isWordChar with
  | ' ' :: c :: rest =>
    if c.isDigit && afterDate? word = some [] then
      (word ++ ' ' :: (c :: rest).takeWhile isWordChar, (c :: rest).dropWhile isWordChar)
    else (word, ' ' :: c :: rest)
  | rest => (word, rest)

/-- Reads a word and its value. -/
def readWord? (text : Text) : Option (Item × Text) :=
  let (word, rest) := splitWord text
  (Item.ofWord? word).map fun item => (item, rest)

end Backtrack.Toml
