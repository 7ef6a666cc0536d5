import Backtrack.Regex.Matcher
import Backtrack.Regex.Reader
import Backtrack.Regex.Size
import Backtrack.Text.Offset

/-!
# Patterns

A compiled regular expression keeps its source beside its program, but not the options it was
compiled with. A pattern is made of one, to match it where it stands in a text: it holds a second
program, compiled again from the source under the default options, for the anchored match. Only when
that second compilation fails, because it exceeds the default limit, does the pattern search with
the given expression, and then it keeps what starts at the place it was asked for.
-/

namespace Backtrack

/-! ## §1. Compiled expressions -/

/-- A compiled regular expression. -/
structure Regex where
  /-- The expression as it was written. -/
  source : Text
  program : Array Regex.Instruction

namespace Regex

/-- Compiles a source under the given options, if it is an expression that keeps the limit. -/
def compile? (source : Text) (options : Options := {}) (limit : Nat := defaultLimit) :
    Option Regex := do
  let node ← Node.read? options source
  if node.keeps limit then return { source, program := node.program } else none

/-- A compiled expression keeps its source. -/
theorem source_of_compile? {source : Text} {options : Options} {limit : Nat} {regex : Regex}
    (h : compile? source options limit = some regex) : regex.source = source := by
  unfold compile? at h
  cases hnode : Node.read? options source with
  | none => simp [hnode] at h
  | some node =>
    by_cases hkeeps : node.keeps limit <;> simp [hnode, hkeeps] at h
    rw [← h]

/-- The characters between two counts of characters. -/
def between (text : Text) (start stop : Nat) : Text :=
  (text.drop start).take (stop - start)

/-- The leftmost match at or behind an offset: its offset and its text. There is none at an offset
that is no character boundary. -/
def findFrom (regex : Regex) (input : Text) (index : Nat) : Option (Nat × Text) :=
  match input.dropBytes? index with
  | none => none
  | some rest =>
    (search regex.program (input.charBefore? index) rest).map fun (start, stop) =>
      (index + Text.size (rest.take start), between rest start stop)

end Regex

/-! ## §2. Patterns -/

/-- What a parser needs to match an expression at a place. -/
structure Pattern where
  /-- The expression the pattern was made of. -/
  regex : Regex
  /-- The program for the anchored match, if the source could be compiled again. -/
  anchored : Option (Array Regex.Instruction)

namespace Pattern

/-- The pattern of a compiled expression. -/
def ofRegex (regex : Regex) : Pattern where
  regex
  anchored := (Regex.compile? regex.source).map (·.program)

/-- The pattern of a source, if it is an expression. What was compiled under the default options and
within the default limit is the same when it is compiled again. -/
def compile? (source : Text) : Option Pattern :=
  (Regex.compile? source).map fun regex => { regex, anchored := some regex.program }

/-- A pattern of a source is a pattern of the compiled expression. -/
theorem compile?_eq_map_ofRegex (source : Text) :
    compile? source = (Regex.compile? source).map ofRegex := by
  cases h : Regex.compile? source with
  | none => simp [compile?, h]
  | some regex =>
    have hsource : regex.source = source := Regex.source_of_compile? h
    simp [compile?, ofRegex, hsource, h]

/-- The text that the pattern matches at an offset. -/
def findAt (pattern : Pattern) (input : Text) (index : Nat) : Option Text :=
  match pattern.anchored with
  | some program =>
    match input.dropBytes? index with
    | none => none
    | some rest => (Regex.matchAt program (input.charBefore? index) rest).map rest.take
  | none =>
    match pattern.regex.findFrom input index with
    | some (start, text) => if start = index then some text else none
    | none => none

end Pattern

end Backtrack
