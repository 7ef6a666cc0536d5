import Backtrack.Decimal.Binary

/-!
# Shortest decimals

A double stands for all the real numbers that round to it. Its shortest decimal is the decimal with
the fewest digits among them, and of several such decimals the nearest to the double. A tie goes up.

The digits are found in exact arithmetic. For each number of digits the only candidates are the two
neighbours of the double on the grid of that many digits: if any point of the grid lies in the
interval, one of those two does.
-/

namespace Backtrack.Decimal

/-- Decimal digits, from the first that is not zero to the last that is not, with the place of the
point: the number is `0.d₁d₂… * 10 ^ point`. Zero has no digits. -/
structure Digits where
  digits : List Char
  point : Int
  deriving DecidableEq, Repr

/-- The reals that round to a positive double, over a common denominator. -/
structure Interval where
  low : Nat
  value : Nat
  high : Nat
  den : Nat
  /-- Do the ends belong to the interval? -/
  closed : Bool

/-- The interval of the double `mantissa * 2 ^ exponent`. Below a power of two the doubles lie twice
as dense. -/
def Interval.of (mantissa : Nat) (exponent : Int) : Interval :=
  let (unit, den) := scale 2 1 1 (exponent - 2)
  let below := if mantissa = Nat.pow 2 52 && -1074 < exponent then 1 else 2
  { low := (4 * mantissa - below) * unit
    value := 4 * mantissa * unit
    high := (4 * mantissa + 2) * unit
    den
    closed := mantissa % 2 = 0 }

/-- Is the multiple `count * unit` in the interval, in parts of the denominator? -/
def Interval.holds (interval : Interval) (multiple : Nat) : Bool :=
  if interval.closed then interval.low ≤ multiple && multiple ≤ interval.high
  else interval.low < multiple && multiple < interval.high

/-- The number of digits before the point of a positive fraction, or minus the number of zeros
behind the point before its first digit. -/
def pointOf (num den : Nat) : Int :=
  if den ≤ num then (Nat.toDigits 10 (num / den)).length
  else
    let digits := (Nat.toDigits 10 (den / num)).length
    if den = num * Nat.pow 10 (digits - 1) then 2 - (digits : Int) else 1 - (digits : Int)

/-- The multiple of `10 ^ place` in the interval that is nearest to its value, if there is one. -/
def Interval.onGrid? (interval : Interval) (place : Int) : Option Nat :=
  let (unit, factor) := scale 10 interval.den 1 place
  let scaled : Interval :=
    { interval with
      low := interval.low * factor
      value := interval.value * factor
      high := interval.high * factor }
  let count := scaled.value / unit
  let rest := scaled.value - count * unit
  let below := scaled.holds (count * unit)
  let above := scaled.holds ((count + 1) * unit)
  if below && above then some (if rest < unit - rest then count else count + 1)
  else if below then some count
  else if above then some (count + 1)
  else none

/-- The digits of `count * 10 ^ place`. -/
def Digits.of (count : Nat) (place : Int) : Digits :=
  let all := Nat.toDigits 10 count
  ⟨(all.reverse.dropWhile (· = '0')).reverse, all.length + place⟩

/-- The shortest decimal in the interval with at least `size` digits, where `left` further sizes can
be tried. -/
def Interval.shortestFrom (interval : Interval) (point : Int) : (left size : Nat) → Digits
  | 0, size =>
    .of ((interval.onGrid? (point - size)).getD 0) (point - size)
  | left + 1, size =>
    match interval.onGrid? (point - size) with
    | some count => .of count (point - size)
    | none => interval.shortestFrom point left (size + 1)

/-- The shortest decimal of the double `mantissa * 2 ^ exponent`. Seventeen digits always do. -/
def shortest (mantissa : Nat) (exponent : Int) : Digits :=
  if mantissa = 0 then ⟨[], 0⟩
  else
    let interval := Interval.of mantissa exponent
    interval.shortestFrom (pointOf interval.value interval.den) 16 1

end Backtrack.Decimal
