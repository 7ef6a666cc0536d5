import Backtrack.Regex.Assertion
import Backtrack.Regex.CharSet

/-!
# Regular expressions as trees

A regular expression is a tree of literal texts, sets of characters, assertions about a place, and
the ways to combine them. Order matters: of two alternatives the first is preferred, and a greedy
repetition prefers to go on while a lazy one prefers to stop.

Trees are built by the functions of §3, which keep them simple: no concatenation or alternative
stands directly on the left side of another of its kind, adjacent literals are one literal, and a
choice between single characters is a set. What a tree matches does not depend on that, but its
size does.
-/

namespace Backtrack.Regex

/-! ## §1. Trees -/

/-- A regular expression. -/
inductive Node where
  /-- The empty text. -/
  | empty
  /-- These characters, of which there is at least one. -/
  | literal (text : List Char)
  /-- One character of the set. -/
  | set (chars : CharSet)
  /-- The empty text, where the assertion holds. -/
  | assertion (condition : Assertion)
  /-- The body, as the group of a number. -/
  | group (number : Nat) (body : Node)
  /-- The first, then the second. -/
  | concat (first second : Node)
  /-- The first or else the second. -/
  | alt (first second : Node)
  /-- The body between `min` and `max` times, without an upper bound if `max` is none. -/
  | repetition (greedy : Bool) (min : Nat) (max : Option Nat) (body : Node)
  deriving DecidableEq, Repr

namespace Node

/-- The expression that matches nothing. -/
def fail : Node := set .none

/-! ## §2. What can be told from a tree -/

/-- Is every match the empty text, and can there be one? -/
def onlyEmpty : Node → Bool
  | empty => true
  | literal _ => false
  | set _ => false
  | assertion _ => true
  | group _ body => body.onlyEmpty
  | concat first second => first.onlyEmpty && second.onlyEmpty
  | alt first second => first.onlyEmpty && second.onlyEmpty
  | repetition _ _ max body => max.isSome && body.onlyEmpty

/-- The least number of characters of a match, where one is possible in every part. -/
def minLength? : Node → Option Nat
  | empty => some 0
  | literal text => some text.length
  | set chars => if chars = .none then none else some 1
  | assertion _ => some 0
  | group _ body => body.minLength?
  | concat first second =>
    match first.minLength?, second.minLength? with
    | some m, some n => some (m + n)
    | _, _ => none
  | alt first second =>
    match first.minLength?, second.minLength? with
    | some m, some n => some (min m n)
    | _, _ => none
  | repetition _ min _ body => body.minLength?.map (min * ·)

/-- Does every match consume a character? -/
def consumes (node : Node) : Bool :=
  node.minLength?.any (0 < ·)

/-! ## §3. Composition -/

/-- Any character of the set, which is a literal if there is only one. -/
def ofSet (chars : CharSet) : Node :=
  match chars.one? with
  | some c => literal [c]
  | none => set chars

/-- A part that is no concatenation, and then the second. -/
def followedBy (part second : Node) : Node :=
  match part, second with
  | empty, second => second
  | part, empty => part
  | literal a, literal b => literal (a ++ b)
  | literal a, concat (literal b) rest => concat (literal (a ++ b)) rest
  | part, second => concat part second

/-- The first, then the second. -/
def andThen : Node → Node → Node
  | concat part rest, second => part.followedBy (rest.andThen second)
  | part, second => part.followedBy second

/-- One after another. -/
def sequence (parts : List Node) : Node :=
  parts.foldr andThen empty

/-- The parts of a concatenation, and none of anything else. -/
def parts : Node → List Node
  | concat first second =>
    match second.parts with
    | [] => [first, second]
    | rest => first :: rest
  | _ => []

/-- The alternatives of a choice. -/
def alternatives : Node → List Node
  | alt first second => first :: second.alternatives
  | node => [node]

/-- The set of the characters that the expression matches, if it matches single characters alone. -/
def chars? : Node → Option CharSet
  | literal [c] => some (.single c)
  | set chars => some chars
  | _ => none

/-- Alternatives as one expression: a set, if all are single characters. -/
def ofAlternatives (nodes : List Node) : Node :=
  match nodes.mapM chars? with
  | some sets => ofSet (.unions sets)
  | none =>
    match nodes.reverse with
    | [] => fail
    | last :: earlier => earlier.foldl (fun rest node => alt node rest) last

/-- What two lists begin with in common. -/
def commonStart : List Node → List Node → List Node
  | a :: as, b :: bs => if a = b then a :: commonStart as bs else []
  | _, _ => []

/-- The parts with which all of the expressions begin. -/
def sharedStart : List Node → List Node
  | [] => []
  | first :: rest => rest.foldl (fun shared node => commonStart shared node.parts) first.parts

/-- The first of the expressions that matches. What concatenations have in common at their start
is taken out of the choice. -/
def choice : List Node → Node
  | [node] => node
  | nodes =>
    let all := nodes.flatMap alternatives
    match sharedStart all with
    | [] => ofAlternatives all
    | shared =>
      let behind := all.map fun node => sequence (node.parts.drop shared.length)
      sequence (shared ++ [ofAlternatives (behind.flatMap alternatives)])

/-- The body between `min` and `max` times. Of a body that consumes nothing once is enough. -/
def repeated (greedy : Bool) (min : Nat) (max : Option Nat) (body : Node) : Node :=
  let (min, max) :=
    if body.onlyEmpty then (Nat.min min 1, some (Nat.min (max.getD 1) 1)) else (min, max)
  match min, max with
  | 0, some 0 => empty
  | 1, some 1 => body
  | min, max => repetition greedy min max body

end Node

end Backtrack.Regex
