import Backtrack.Diagnostic.Excerpt
import Backtrack.Text.DisplayWidth

/-!
# Snippets

An excerpt drawn with line numbers and with a label under the characters it is about.
-/

namespace Backtrack.Diagnostic

/-! ## §1. Columns -/

/-- How far a line has been set: its column, and whether an escape sequence is open, whose
characters take no room. -/
structure Carriage where
  column : Nat := 0
  escaped : Bool := false

/-- The cells that the next character takes. A tab goes to the next multiple of four. -/
def Carriage.width (carriage : Carriage) (c : Char) : Nat :=
  if carriage.escaped then 0
  else if c = '\t' then 4 - carriage.column % 4
  else if c = '\x1b' then 0
  else Text.charWidth c

/-- The carriage behind the next character. -/
def Carriage.move (carriage : Carriage) (c : Char) : Carriage where
  column := carriage.column + carriage.width c
  escaped := if carriage.escaped then c != 'm' else c = '\x1b'

/-- The cells that a line takes up to its end. -/
def cells (text : Text) : Nat :=
  (text.foldl Carriage.move {}).column

/-- The line with blanks for its tabs. -/
def expandTabs (carriage : Carriage) : Text → Text
  | [] => []
  | c :: rest =>
    let shown := if c = '\t' then List.replicate (carriage.width c) ' ' else [c]
    shown ++ expandTabs (carriage.move c) rest

/-- The characters of a text that lie before an offset as a whole. -/
def wholeBefore : (offset : Nat) → Text → Text
  | _, [] => []
  | offset, c :: rest =>
    if c.utf8Size ≤ offset then c :: wholeBefore (offset - c.utf8Size) rest else []

/-- The column of an offset on a line. An offset past the line's text is one column behind it. -/
def Line.column (line : Line) (offset : Nat) : Nat :=
  let inside := offset - line.start
  if Text.size line.text < inside then cells line.text + 1
  else cells (wholeBefore inside line.text)

/-! ## §2. Drawing -/

/-- The same character so many times. -/
def times (count : Nat) (c : Char) : String :=
  String.ofList (List.replicate count c)

/-- The two lines that point at a span and name it. -/
def labelLines (indent : String) (line : Line) (span : Span) (label : String) : String :=
  let left := line.column span.offset
  let right :=
    if span.size = 0 then left + 1
    else max (line.column (span.offset + span.size)) (left + 1)
  let middle := (left + right) / 2
  let pointer := if span.size = 0 then "▲" else "┬"
  indent ++ times left ' ' ++ times (middle - left) '─' ++ pointer ++
    times (right - middle - 1) '─' ++ "\n" ++
  indent ++ times middle ' ' ++ "╰── " ++ label ++ "\n"

/-- A line with its number, and with the label under it if the span is on it. -/
def numberedLine (width : Nat) (span : Span) (label : String) (line : Line) : String :=
  let number := toString line.number
  " " ++ times (width - number.length) ' ' ++ number ++ " │ " ++
    (expandTabs {} line.text).toString ++ "\n" ++
  if line.holds span then labelLines (" " ++ times width ' ' ++ " · ") line span label else ""

/-- The snippet around a span: its line and one line before and after it. -/
def snippet (text : Text) (span : Span) (label : String) : String :=
  let lines := (Excerpt.around text span 1 1).lines text
  let width := (toString ((lines.getLast?.map Line.number).getD 0)).length
  let margin := times (width + 2) ' '
  let heading :=
    if 1 < lines.length then
      let (line, column) := span.position text
      s!"[{line + 1}:{column + 1}]"
    else "───"
  margin ++ "╭─" ++ heading ++ "\n" ++ String.join (lines.map (numberedLine width span label)) ++
    margin ++ "╰────\n"

end Backtrack.Diagnostic
