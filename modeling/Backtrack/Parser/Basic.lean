import Backtrack.Outcome
import Backtrack.Pattern
import Backtrack.Value

/-!
# Parsers

A parser is a tree: texts and patterns at the leaves, and the ways to combine parsers above them.
The tree is finite although grammars are recursive, because a leaf may be *deferred*: it only names
what stands in its place. What such a name is, `ρ`, is left open. In a grammar as it is written it
is the name of a rule; in a parser that runs it is a cell, which holds the rule's parser once it has
been built.

Every parser of a tree makes values over the same atoms `α`.
-/

namespace Backtrack

/-- How often a repetition matches: at least `min` times and, if there is a `max`, at most so many
times. -/
structure Bounds where
  min : Nat
  max : Option Nat
  deriving DecidableEq, Repr

namespace Bounds

/-- Any number of times. -/
def many : Bounds := ⟨0, none⟩

/-- Once or more. -/
def atLeastOnce : Bounds := ⟨1, none⟩

/-- Is the least number no greater than the greatest? -/
def consistent (bounds : Bounds) : Bool :=
  bounds.max.all (bounds.min ≤ ·)

/-- May the repetition go on when it has matched so many times? -/
def admits (bounds : Bounds) (count : Nat) : Bool :=
  bounds.max.all (count < ·)

end Bounds

/-- A parser, over the names `ρ` of deferred parsers and the atoms `α` of values. -/
inductive Parser (ρ α : Type) where
  /-- Exactly this text. -/
  | literal (text : Text)
  /-- A match of the pattern, at this place. -/
  | pattern (pattern : Pattern)
  /-- The first and then the next, right behind it. -/
  | sequence (first next : Parser ρ α)
  /-- The first alternative that matches. -/
  | choice (alternatives : List (Parser ρ α))
  /-- The body as often as it matches, within the bounds. -/
  | repetition (body : Parser ρ α) (bounds : Bounds)
  /-- The body as often as it matches, with the separator between. A separator that matches is
  consumed even where the body does not follow it. -/
  | separated (body separator : Parser ρ α) (bounds : Bounds)
  /-- The body, or nothing where it fails. -/
  | option (body : Parser ρ α)
  /-- Nothing, and only where the body fails. -/
  | negation (body : Parser ρ α)
  /-- The body, and then the end of the input. -/
  | anchored (body : Parser ρ α)
  /-- The body with its value converted. -/
  | mapped (body : Parser ρ α) (convert : Value α → Value α)
  /-- The body with its value converted, where the conversion can refuse. -/
  | converted (body : Parser ρ α) (convert : Value α → Except String (Value α))
  /-- Whatever the name stands for. -/
  | deferred (name : ρ)

namespace Parser

variable {ρ α : Type}

/-- The first parser, or the second where it fails. A choice takes in another alternative at its
end and is not nested. -/
def or : Parser ρ α → Parser ρ α → Parser ρ α
  | choice alternatives, other => choice (alternatives ++ [other])
  | parser, other => choice [parser, other]

/-- The alternatives of a parser that is itself a choice. -/
def alternatives? : Parser ρ α → Option (List (Parser ρ α))
  | choice alternatives => some alternatives
  | _ => none

/-- One parser right behind the other, from the first to the last. -/
def sequenceAll (first : Parser ρ α) (rest : List (Parser ρ α)) : Parser ρ α :=
  rest.foldl sequence first

end Parser

end Backtrack
