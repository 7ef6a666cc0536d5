import Backtrack.Text.DisplayWidth

/-!
# Escape sequences in texts

A text for a terminal may hold escape sequences, which show nothing: an escape character with one
character behind it, a control sequence up to its final character, or a command up to its end.
-/

namespace Backtrack.Text

/-- Where a character stands. -/
inductive EscapeState where
  /-- In no sequence. -/
  | outside
  /-- Behind an escape character. -/
  | opened
  /-- In a control sequence. -/
  | control
  /-- In a command, behind an escape character or not. -/
  | command (escaped : Bool)

/-- Is the next character part of a sequence, and where does the one behind it stand? -/
def EscapeState.next : EscapeState → Char → Bool × EscapeState
  | outside, c => if c = '\x1b' then (true, opened) else (false, outside)
  | opened, c => (true, if c = '[' then control else if c = ']' then command false else outside)
  | control, c => (true, if 0x40 ≤ c.toNat && c.toNat ≤ 0x7E then outside else control)
  | command escaped, c =>
    (true, if c = '\x07' || (escaped && c = '\\') then outside else command (c = '\x1b'))

/-- For each character of a text, whether it is part of an escape sequence. -/
def escapesFrom (state : EscapeState) : List Char → List Bool
  | [] => []
  | c :: rest =>
    let (hidden, state) := state.next c
    hidden :: escapesFrom state rest

/-- The characters of a text, each with whether it is part of an escape sequence. -/
def markEscapes (text : List Char) : List (Char × Bool) :=
  text.zip (escapesFrom .outside text)

/-- The text without its escape sequences. -/
def dropEscapes (text : List Char) : List Char :=
  ((markEscapes text).filter (!·.2)).map (·.1)

/-- The number of cells that a running text takes. -/
def shownWidth (text : List Char) : Nat :=
  ((dropEscapes text).map runningWidth).foldl (· + ·) 0

end Backtrack.Text
