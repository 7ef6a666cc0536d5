import Backtrack.Diagnostic.Snippet
import Backtrack.Diagnostic.Wrap
import Backtrack.Inspect
import Backtrack.Outcome

/-!
# Reports

What a person is told when something went wrong: a code, a message, the chain of its causes, the
place in the text it is about, and advice. A report is drawn in one of two sets of characters.
-/

namespace Backtrack

/-! ## §1. Reports -/

/-- A place in a text, with a label. -/
structure Label where
  text : Text
  span : Diagnostic.Span
  name : String

/-- A report. -/
structure Report where
  code : String
  message : String
  /-- The causes, each the cause of the one before it. -/
  causes : List String := []
  label : Option Label := none
  help : Option String := none

namespace Report

/-- The characters a report is drawn with. -/
structure Theme where
  /-- In front of the message. -/
  mark : String
  /-- In front of the message's further lines. -/
  bar : String
  /-- In front of a cause that has a cause itself. -/
  fork : String
  /-- In front of the last cause. -/
  tail : String

/-- Lines and arrows as characters of their own. -/
def Theme.drawn : Theme := ⟨"×", "│", "├─▶", "╰─▶"⟩

/-- Lines and arrows in ASCII. -/
def Theme.ascii : Theme := ⟨"x", "|", "|->", "`->"⟩

/-- A text in lines behind its indents, with a line feed at the end. -/
def block (firstIndent indent text : String) : String :=
  (Diagnostic.fill firstIndent.toList indent.toList text.toList).toString ++ "\n"

/-- The causes, with an arrow in front of each. -/
def renderCauses (theme : Theme) : List String → String
  | [] => ""
  | [cause] => block ("  " ++ theme.tail ++ " ") "      " cause
  | cause :: rest =>
    block ("  " ++ theme.fork ++ " ") ("  " ++ theme.bar ++ "   ") cause ++ renderCauses theme rest

/-- The report drawn. -/
def render (theme : Theme) (report : Report) : String :=
  report.code ++ "\n\n" ++
  block ("  " ++ theme.mark ++ " ") ("  " ++ theme.bar ++ " ") report.message ++
  renderCauses theme report.causes ++
  (match report.label with
    | some label => Diagnostic.snippet label.text label.span label.name
    | none => "") ++
  (match report.help with
    | some help => block "  help: " "        " help
    | none => "")

end Report

/-! ## §2. Reports of failures -/

namespace Failure

/-- The part of a text that a failure points at: the character at its index, or nothing at the end
of the text. An index past the end counts as the end. -/
def span (failure : Failure) (text : Text) : Diagnostic.Span :=
  let offset := min failure.index text.size
  match text.dropBytes? offset with
  | some (c :: _) => ⟨offset, c.utf8Size⟩
  | _ => ⟨offset, 0⟩

/-- Advice on a kind of failure. -/
def help? : FailureKind → Option String
  | .parsing => none
  | .conversion => some "the text matched but its value could not be converted"
  | .termination => some "remove the input after the complete expression"
  | .inversion => some "this input is excluded by a negative lookahead"

/-- The report of a failure to parse a text. -/
def report (failure : Failure) (text : Text) : Report where
  code := "braid::" ++ failure.kind.name
  message := failure.message
  label := some ⟨text, failure.span text, failure.kind.name ++ " failure"⟩
  help := help? failure.kind

end Failure

end Backtrack
