/-!
# Binary fractions

A double is a whole number times a power of two, or it is infinite, or it is no number. This module
takes doubles apart and puts the nearest one together for a fraction: ties go to the even neighbour,
and what is too large is infinite.
-/

namespace Backtrack.Decimal

/-! ## §1. Taking a double apart -/

/-- What a double stands for. -/
inductive Binary where
  | nan
  | infinite (negative : Bool)
  /-- The number `mantissa * 2 ^ exponent`, with a sign that zero has too. -/
  | finite (negative : Bool) (mantissa : Nat) (exponent : Int)
  deriving DecidableEq, Repr

/-- Takes a double apart. -/
def Binary.ofFloat (x : Float) : Binary :=
  let bits : Nat := x.toBits.toNat
  let negative := bits / Nat.pow 2 63 = 1
  let biased : Nat := bits / Nat.pow 2 52 % Nat.pow 2 11
  let fraction : Nat := bits % Nat.pow 2 52
  if biased = 0x7FF then if fraction = 0 then infinite negative else nan
  else if biased = 0 then finite negative fraction (-1074)
  else finite negative (Nat.pow 2 52 + fraction) ((biased : Int) - 1075)

/-! ## §2. The nearest double -/

/-- The quotient rounded to the nearest whole number, a tie to the even one. -/
def roundEven (num den : Nat) : Nat :=
  let quotient := num / den
  let rest := 2 * (num % den)
  if rest < den then quotient
  else if rest = den then quotient + quotient % 2
  else quotient + 1

/-- The numerator and denominator of `num * base ^ exponent / den`. -/
def scale (base num den : Nat) (exponent : Int) : Nat × Nat :=
  if 0 ≤ exponent then (num * Nat.pow base exponent.toNat, den)
  else (num, den * Nat.pow base (-exponent).toNat)

/-- The greatest exponent of two that a positive fraction reaches. -/
def floorLog2 (num den : Nat) : Int :=
  let guess : Int := (num.log2 : Int) - den.log2
  let (scaledNum, scaledDen) := scale 2 num den (-guess)
  if scaledDen ≤ scaledNum then guess else guess - 1

/-- The bits of the double that is nearest to a fraction, without its sign. -/
def nearestBits (num den : Nat) : Nat :=
  if num = 0 then 0
  else
    let exponent := max (floorLog2 num den - 52) (-1074)
    let (scaledNum, scaledDen) := scale 2 num den (-exponent)
    let bits := (exponent + 1074).toNat * Nat.pow 2 52 + roundEven scaledNum scaledDen
    min bits (0x7FF * Nat.pow 2 52)

/-- The double with these bits and this sign. -/
def withSign (negative : Bool) (bits : Nat) : Float :=
  Float.ofBits (UInt64.ofNat (if negative then Nat.pow 2 63 + bits else bits))

/-- The double nearest to `mantissa * 10 ^ exponent`. Exponents far out of range need no exact
arithmetic. -/
def nearest (negative : Bool) (mantissa : Nat) (exponent : Int) : Float :=
  let magnitude := exponent + (Nat.toDigits 10 mantissa).length
  if mantissa = 0 || magnitude < -400 then withSign negative 0
  else if 400 < magnitude then withSign negative (0x7FF * Nat.pow 2 52)
  else
    let (num, den) := scale 10 mantissa 1 exponent
    withSign negative (nearestBits num den)

end Backtrack.Decimal
