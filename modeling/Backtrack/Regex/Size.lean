import Backtrack.Regex.Node
import Backtrack.Regex.Octets
import Backtrack.Text.Offset

/-!
# Sizes

An expression is compiled to two automata over octets, one that reads forward and one that reads
backward, and neither may be larger than a limit. The size of an automaton is counted in octets: so
many for a state, for a transition that stands beside others in a state, and for an alternative. It
is a sum over the parts of the expression, so it is known without an automaton. A long list of words
is looked up as it is, without automata, and keeps every limit.
-/

namespace Backtrack.Regex

/-! ## §1. Units -/

/-- Which way an automaton reads. -/
inductive Direction where
  | forward
  | backward
  deriving DecidableEq, Repr

/-- So many states. -/
def states (count : Nat) : Nat := 32 * count

/-- So many transitions within a state. -/
def arcs (count : Nat) : Nat := 8 * count

/-- So many alternatives of a state. -/
def branches (count : Nat) : Nat := 4 * count

/-- The limit that an expression keeps if nothing else is asked for. -/
def defaultLimit : Nat := 10 * Nat.pow 2 20

/-! ## §2. Sets and choices between literals -/

/-- The size of a set: one state behind another if it is within ASCII, and else the states of its
octet sequences. -/
def CharSet.bytes (set : CharSet) (direction : Direction) : Nat :=
  if set.isAscii then states 2 + arcs set.ranges.length
  else
    match direction with
    | .forward => states set.forwardStates.1 + arcs set.forwardStates.2
    | .backward => states set.backwardStates.1 + branches set.backwardStates.2

/-- A bound on the size of a set in both directions, from the number of its ranges alone. -/
def CharSet.roughBytes (set : CharSet) : Nat :=
  4096 * (set.ranges.length + 1)

/-- Words that share their beginnings, in the order in which they were added, cut where one of them
ends: behind an end, words share only with those added later. -/
def sections (words : List (List UInt8)) : List (List (List UInt8)) :=
  words.foldr (fun word rest =>
    match word, rest with
    | [], rest => [] :: rest
    | word, [] => [[word]]
    | word, first :: rest => (word :: first) :: rest) [[]]

/-- The size of a tree that tells words apart octet by octet, each at most so long. A place where
words go on is a state with an alternative for each section that goes on and for each end, and a
section is a state with an arc for each octet. -/
def wordTree : (octets : Nat) → List (List UInt8) → Nat
  | 0, _ => 0
  | octets + 1, words =>
    if words.all List.isEmpty then 0
    else
      let ends := min 1 (words.takeWhile List.isEmpty).length
      let parts := sections (words.dropWhile List.isEmpty)
      let here := parts.map fun part =>
        let heads := (part.filterMap List.head?).eraseDups
        let below := heads.map fun head =>
          wordTree octets ((part.filter (·.head? = some head)).map List.tail)
        if heads.isEmpty then 0
        else
          states 1 + branches 1 + (if 1 < heads.length then arcs heads.length else 0) + below.sum
      states 1 + branches (ends + (parts.length - 1)) + here.sum

/-- The size of a choice between literals, with one state behind all of them. -/
def literalChoice (direction : Direction) (texts : List (List Char)) : Nat :=
  let words := texts.map fun text =>
    match direction with
    | .forward => Text.encode text
    | .backward => (Text.encode text).reverse
  states 1 + wordTree ((words.map List.length).foldl max 0 + 1) words

/-! ## §3. Trees -/

namespace Node

/-- The text of a literal. -/
def literal? : Node → Option (List Char)
  | literal text => some text
  | _ => none

/-- The size of a part, where sets have the sizes given for them. `chained` is set where the part is
the rest of a choice. -/
def bytes (ofSet : CharSet → Nat) (direction : Direction) : (chained : Bool) → Node → Nat
  | _, empty => states 1
  | _, literal text => states (Text.size text)
  | _, set chars => ofSet chars
  | _, assertion _ => states 1
  | _, group _ body =>
    (if direction = .forward then states 2 else 0) + body.bytes ofSet direction false
  | _, concat first second =>
    first.bytes ofSet direction false + second.bytes ofSet direction false
  | chained, alt first second =>
    match chained, (alt first second).alternatives.mapM literal? with
    | false, some texts => literalChoice direction texts
    | _, _ =>
      let rest :=
        match second with
        | alt _ _ => second.bytes ofSet direction true
        | _ => branches 1 + second.bytes ofSet direction false
      (if chained then 0 else states 2) + branches 1 + first.bytes ofSet direction false + rest
  | _, repetition _ min max body =>
    let one := body.bytes ofSet direction false
    let copies := if min = 0 then states 1 else min * one
    let option := states 1 + branches 2 + one
    match min, max with
    | 0, none => if body.consumes then option else option + states 2 + branches 2
    | _, none => copies + states 1 + branches 2
    | 0, some 1 => option + states 1
    | min, some max => if min = max then copies else copies + states 1 + (max - min) * option

/-- Does every match begin at the start of the text, or for an automaton that reads backward, end at
its end? -/
def anchored : Direction → Node → Bool
  | .forward, assertion .textStart => true
  | .backward, assertion .textEnd => true
  | direction, group _ body => body.anchored direction
  | .forward, concat first second =>
    first.anchored .forward || (first.onlyEmpty && second.anchored .forward)
  | .backward, concat first second =>
    second.anchored .backward || (second.onlyEmpty && first.anchored .backward)
  | direction, alt first second => first.anchored direction && second.anchored direction
  | direction, repetition _ min _ body => 0 < min && body.anchored direction
  | _, _ => false

/-- The size of a whole automaton: what starts it, which is a loop where it may start anywhere, the
states around the whole match, the expression, and the state of a match. -/
def automatonBytes (ofSet : CharSet → Nat) (direction : Direction) (node : Node) : Nat :=
  (if node.anchored direction then states 1 else states 3 + branches 2 + arcs 1) +
    (if direction = .forward then states 2 else 0) +
    node.bytes ofSet direction false + states 1

/-! ## §4. Limits -/

/-- So many words make a long list. -/
def longList : Nat := 3000

/-- Is the expression a long list of words? No automaton is built for a choice between so many
literals. -/
def isLongList (node : Node) : Bool :=
  (node.alternatives.mapM literal?).any (longList ≤ ·.length)

/-- Does the expression keep a limit? A long list of words always does. Of anything else, both
automata have to; where a bound on their sizes does, nothing has to be counted. An expression of
another form whose matches are only a few short texts could do without automata, too. Here its
automata count, so that it is refused where they exceed the limit. -/
def keeps (limit : Nat) (node : Node) : Bool :=
  node.isLongList ||
    [Direction.forward, .backward].all fun direction =>
      node.automatonBytes CharSet.roughBytes direction ≤ limit ||
        node.automatonBytes (·.bytes direction) direction ≤ limit

end Node

end Backtrack.Regex
