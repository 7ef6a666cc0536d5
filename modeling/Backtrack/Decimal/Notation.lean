import Backtrack.Decimal.Shortest

/-!
# Written decimals

How a double is written: its shortest decimal with a point or with an exponent.
-/

namespace Backtrack.Decimal

/-- The choices of a notation. -/
structure Style where
  /-- How many digits stand behind the point at least. -/
  leastPlaces : Nat
  /-- The least and the greatest place of the point for which no exponent is written. If there is
  none, an exponent is never written. -/
  positional : Option (Int × Int)

/-- Digits and nothing else: whole numbers have no point, and there is never an exponent. -/
def Style.plain : Style := ⟨0, none⟩

/-- One place at least behind the point, and an exponent for what is below `10 ^ (-4)` or not below
`10 ^ 16`. -/
def Style.exact : Style := ⟨1, some (-3, 16)⟩

/-- The digits with a point, filled up with zeros. -/
def Digits.positional (leastPlaces : Nat) (d : Digits) : List Char :=
  let zeros := (-d.point).toNat
  let count := d.point.toNat
  let whole := d.digits.take count ++ List.replicate (count - d.digits.length) '0'
  let places := List.replicate zeros '0' ++ d.digits.drop count
  let places := places ++ List.replicate (leastPlaces - places.length) '0'
  let whole := if whole.isEmpty then ['0'] else whole
  if places.isEmpty then whole else whole ++ '.' :: places

/-- The first digit, the others behind a point, and the exponent. -/
def Digits.scientific (d : Digits) : List Char :=
  let exponent := 'e' :: (toString (d.point - 1)).toList
  match d.digits with
  | [] => '0' :: exponent
  | [digit] => digit :: exponent
  | digit :: more => digit :: '.' :: more ++ exponent

/-- Digits in a style. Zero never has an exponent. -/
def Digits.write (style : Style) (d : Digits) : List Char :=
  match style.positional with
  | none => d.positional style.leastPlaces
  | some (least, greatest) =>
    if d.digits.isEmpty || (least ≤ d.point && d.point ≤ greatest) then
      d.positional style.leastPlaces
    else d.scientific

/-- A double in a style. -/
def write (style : Style) (x : Float) : String :=
  match Binary.ofFloat x with
  | .nan => "NaN"
  | .infinite negative => if negative then "-inf" else "inf"
  | .finite negative mantissa exponent =>
    let text := String.ofList ((shortest mantissa exponent).write style)
    if negative then "-" ++ text else text

end Backtrack.Decimal
