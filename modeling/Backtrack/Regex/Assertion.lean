import Backtrack.Text.Word

/-!
# Assertions

Conditions on a place in a text that consume nothing. Each is decided by the characters on both
sides of the place, where a missing neighbour is an end of the text.
-/

namespace Backtrack.Regex

/-- How a place lies to the words around it. -/
inductive WordPlace where
  /-- Between a word character and anything else. -/
  | boundary
  /-- Between two word characters or between two others. -/
  | noBoundary
  /-- In front of a word. -/
  | start
  /-- Behind a word. -/
  | stop
  /-- Not behind a word character. -/
  | startHalf
  /-- Not in front of a word character. -/
  | stopHalf
  deriving DecidableEq, Repr

/-- Does a place between these neighbours lie so, where each is a word character or not? -/
def WordPlace.holds (before after : Bool) : WordPlace → Bool
  | boundary => before != after
  | noBoundary => before == after
  | start => !before && after
  | stop => before && !after
  | startHalf => !before
  | stopHalf => !after

/-- A condition on a place in a text. -/
inductive Assertion where
  | textStart
  | textEnd
  /-- The start of the text or of a line. -/
  | lineStart (carriageReturn : Bool)
  /-- The end of the text or of a line. -/
  | lineEnd (carriageReturn : Bool)
  /-- A place among words, of all scripts or of ASCII alone. -/
  | word (place : WordPlace) (unicode : Bool)
  deriving DecidableEq, Repr

/-- Is there a word character on this side? -/
def besideWord (unicode : Bool) : Option Char → Bool
  | none => false
  | some c => if unicode then Text.isWordChar c else c.isAlphanum || c = '_'

/-- Does the assertion hold between these neighbours? Where a carriage return ends lines, no line
starts or ends between it and a line feed. -/
def Assertion.holds (before after : Option Char) : Assertion → Bool
  | textStart => before.isNone
  | textEnd => after.isNone
  | lineStart carriageReturn =>
    before.isNone || before = some '\n' ||
      (carriageReturn && before = some '\r' && after ≠ some '\n')
  | lineEnd carriageReturn =>
    after.isNone || (after = some '\n' && !(carriageReturn && before = some '\r')) ||
      (carriageReturn && after = some '\r')
  | word place unicode => place.holds (besideWord unicode before) (besideWord unicode after)

end Backtrack.Regex
