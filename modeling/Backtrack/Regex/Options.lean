/-!
# Options of a regular expression

The switches that change what the same written expression means.
-/

namespace Backtrack.Regex

/-- The switches. All are off by default, but the one for characters beyond ASCII. -/
structure Options where
  /-- Letters match in both cases. -/
  ignoreCase : Bool := false
  /-- The line anchors hold at every line, not only at the ends of the text. -/
  multiLine : Bool := false
  /-- A dot matches a line feed too. -/
  dotAll : Bool := false
  /-- Repetitions are lazy, and greedy with a question mark. -/
  swapGreed : Bool := false
  /-- Classes, cases and words reach beyond ASCII. -/
  unicode : Bool := true
  /-- A carriage return ends a line as well, and together with a line feed it ends one line. -/
  carriageReturn : Bool := false
  /-- Blanks and comments between the parts of the expression mean nothing. -/
  verbose : Bool := false
  deriving DecidableEq, Repr

/-- Turns the switch of a letter on or off, if there is one. -/
def Options.set? (options : Options) (letter : Char) (on : Bool) : Option Options :=
  match letter with
  | 'i' => some { options with ignoreCase := on }
  | 'm' => some { options with multiLine := on }
  | 's' => some { options with dotAll := on }
  | 'U' => some { options with swapGreed := on }
  | 'u' => some { options with unicode := on }
  | 'R' => some { options with carriageReturn := on }
  | 'x' => some { options with verbose := on }
  | _ => none

end Backtrack.Regex
