import Backtrack.Text.Offset

/-!
# Values

What a parser makes of the text it matches. Texts, pairs, lists and options come from the
combinators themselves; whatever else a conversion makes is an atom.
-/

namespace Backtrack

/-- A value built by a parser, over the atoms that its conversions make. -/
inductive Value (α : Type) where
  | text (text : Text)
  /-- The values of two parts that follow each other. -/
  | pair (first next : Value α)
  | list (items : List (Value α))
  | none
  | some (value : Value α)
  | unit
  | atom (atom : α)

namespace Value

variable {α : Type}

/-! ## §1. Equality -/

mutual

/-- Equality of values, given equality of atoms. It need not be reflexive: an atom may differ from
itself. -/
def beq [BEq α] : Value α → Value α → Bool
  | text a, text b => a == b
  | pair a b, pair c d => beq a c && beq b d
  | list as, list bs => beqAll as bs
  | none, none => true
  | some a, some b => beq a b
  | unit, unit => true
  | atom a, atom b => a == b
  | _, _ => false

/-- Equality of lists of values. -/
def beqAll [BEq α] : List (Value α) → List (Value α) → Bool
  | [], [] => true
  | a :: as, b :: bs => beq a b && beqAll as bs
  | _, _ => false

end

instance [BEq α] : BEq (Value α) := ⟨beq⟩

/-! ## §2. Chains of pairs -/

/-- Takes the last `n` steps off a chain of pairs that is nested to the left, and puts them in front
of `steps`. A value with fewer steps is left as it is. -/
def unchain (steps : List (Value α)) : Nat → Value α → List (Value α)
  | 0, value => value :: steps
  | n + 1, pair first next => unchain (next :: steps) n first
  | _ + 1, value => value :: steps

/-- The values of `n + 1` steps that were chained one behind the other, in order. -/
def steps (n : Nat) (value : Value α) : List (Value α) :=
  unchain [] n value

/-- Chains values one behind the other, nested to the left. -/
def chain (first : Value α) (rest : List (Value α)) : Value α :=
  rest.foldl pair first

end Value

end Backtrack
