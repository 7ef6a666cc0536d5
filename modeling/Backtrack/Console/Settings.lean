import Backtrack.Expression.Language
import Backtrack.Text.Blank
import Backtrack.Text.Lowercase

/-!
# Console settings

What a console can be told: what to write before it reads a line, which line ends the session, and
which rule lines are parsed with.
-/

namespace Backtrack

/-- The settings of a console. -/
structure Settings where
  prompt : Text := ['>', ' ']
  exitCommand : Text := ['e', 'x', 'i', 't']
  rule : Language.EntryRule := .function
  deriving DecidableEq, Repr

namespace Settings

/-- The settings with another rule, if one is given. -/
def withRule (settings : Settings) (rule : Option Language.EntryRule) : Settings :=
  { settings with rule := rule.getD settings.rule }

/-- Is the line the exit command? Case does not matter. -/
def isExit (settings : Settings) (line : Text) : Bool :=
  Text.lowercase line == Text.lowercase settings.exitCommand

/-- Does the exit command consist of more than blanks? -/
def hasExit (settings : Settings) : Bool :=
  !(Text.trim settings.exitCommand).isEmpty

end Settings

end Backtrack
