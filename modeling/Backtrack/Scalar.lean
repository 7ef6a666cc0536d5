import Backtrack.Decimal.Notation
import Backtrack.Text.Quoted

/-!
# Scalars

The atoms that named conversions make of texts: whole numbers, decimals, truth values and
characters.
-/

namespace Backtrack

/-- An atom of one of the elementary kinds. -/
inductive Scalar where
  | whole (n : Int)
  | decimal (x : Float)
  | truth (b : Bool)
  | char (c : Char)

namespace Scalar

/-- Equality of scalars. What is no number differs from itself, and the two zeros are equal. -/
def beq : Scalar → Scalar → Bool
  | whole m, whole n => m == n
  | decimal x, decimal y => x == y
  | truth a, truth b => a == b
  | char c, char d => c == d
  | _, _ => false

instance : BEq Scalar := ⟨beq⟩

/-- A scalar as it is shown. -/
def inspect : Scalar → String
  | whole n => toString n
  | decimal x => Decimal.write .exact x
  | truth b => toString b
  | char c => Text.quoteChar c

end Scalar

end Backtrack
