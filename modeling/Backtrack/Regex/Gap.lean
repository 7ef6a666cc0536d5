import Backtrack.Regex.Options
import Backtrack.Text.Blank

/-!
# Gaps

Where an expression is verbose, there may be gaps between its parts: blanks, and comments from a
number sign to the end of the line. Elsewhere there are none, and blanks and number signs stand for
themselves.
-/

namespace Backtrack.Regex

/-- What is left behind a gap, or behind the comment in which the reader stands. -/
def behindGap (inComment : Bool) : List Char → List Char
  | [] => []
  | c :: rest =>
    if inComment then behindGap (c != '\n') rest
    else if Text.isBlank c then behindGap false rest
    else if c = '#' then behindGap true rest
    else c :: rest

/-- Skips a gap, if there can be one. -/
def Options.skip (options : Options) (rest : List Char) : List Char :=
  if options.verbose then behindGap false rest else rest

/-- The next character behind blanks, and behind a number sign among them. If nothing else follows,
it is the first character behind the sign, or the first of all. -/
def visible? (rest : List Char) : Option Char :=
  match rest.dropWhile Text.isBlank with
  | '#' :: comment => (comment.find? (!Text.isBlank ·)).or rest.head?
  | c :: _ => some c
  | [] => rest.head?

/-- The character that is looked at to tell whether a hyphen makes a range. -/
def Options.peek? (options : Options) (rest : List Char) : Option Char :=
  if options.verbose then visible? rest else rest.head?

end Backtrack.Regex
