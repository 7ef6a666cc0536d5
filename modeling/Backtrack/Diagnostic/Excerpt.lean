import Backtrack.Text.Offset
import Backtrack.Text.Utf8

/-!
# Excerpts

The part of a text that is shown around a place in it: the line of the place, and so many lines
before and after it. Lines end with a line feed, a carriage return, or both in this order.
-/

namespace Backtrack.Diagnostic

/-- A part of a text, in bytes. -/
structure Span where
  offset : Nat
  size : Nat
  deriving DecidableEq, Repr

/-- The last byte of the span, or the byte before it if it is empty. -/
def Span.last (span : Span) : Nat := span.offset + span.size - 1

/-! ## §1. Finding the excerpt -/

/-- What is known of an excerpt while the text is scanned. -/
structure Scan where
  /-- The bytes scanned so far. -/
  index : Nat := 0
  /-- Where the lines start that are kept before the span, the earliest first. -/
  starts : List Nat := []
  /-- The number of lines that were let go. -/
  line : Nat := 0
  column : Nat := 0
  /-- Where the current line starts. -/
  current : Nat := 0
  /-- The number of lines after the span. -/
  linesAfter : Nat := 0
  /-- Has the end of the span been seen? -/
  past : Bool := false
  /-- Has the line of the span ended? -/
  ended : Bool := false
  /-- Is the excerpt complete? -/
  complete : Bool := false

/-- The scan at the end of a line whose last byte is at `last`. -/
def Scan.lineEnd (scan : Scan) (span : Span) (before after last : Nat) : Scan :=
  if last < span.offset then
    let starts := scan.starts ++ [scan.current]
    if before < starts.length then
      { scan with column := 0, line := scan.line + 1, starts := starts.tail, current := last + 1 }
    else { scan with column := 0, starts, current := last + 1 }
  else if span.offset + (span.size - 1) ≤ last && scan.past then
    let linesAfter := if scan.ended then scan.linesAfter + 1 else scan.linesAfter
    { scan with
      column := 0, linesAfter, ended := true, current := last + 1
      complete := after ≤ linesAfter }
  else { scan with current := last + 1 }

/-- The scan behind a byte, the last of its line end if it belongs to one. -/
def Scan.next (scan : Scan) (span : Span) (after last : Nat) : Scan :=
  if scan.complete then { scan with index := last + 1 }
  else if span.last ≤ last then
    { scan with index := last + 1, past := true, complete := after ≤ scan.linesAfter }
  else { scan with index := last + 1 }

/-- Scans bytes until the excerpt is complete. -/
def Scan.run (span : Span) (before after : Nat) (scan : Scan) : List UInt8 → Scan
  | [] => scan
  | 13 :: 10 :: rest =>
    if scan.complete then scan
    else
      let last := scan.index + 1
      ((scan.lineEnd span before after last).next span after last).run span before after rest
  | byte :: rest =>
    if scan.complete then scan
    else
      let last := scan.index
      let scan :=
        if byte = 13 || byte = 10 then scan.lineEnd span before after last
        else if last < span.offset then { scan with column := scan.column + 1 }
        else scan
      (scan.next span after last).run span before after rest

/-- The excerpt around a span: where it starts and ends, and the number of its first line. -/
structure Excerpt where
  start : Nat
  stop : Nat
  line : Nat

/-- The excerpt with so many lines before and after the span's own. -/
def Excerpt.around (text : Text) (span : Span) (before after : Nat) : Excerpt :=
  let scan := ({} : Scan).run span before after (Text.encode text)
  ⟨scan.starts.headD (if before = 0 then span.offset else 0), scan.index, scan.line⟩

/-- The line and the column of a span's start, counted from zero, the column in bytes. -/
def Span.position (text : Text) (span : Span) : Nat × Nat :=
  let scan := ({} : Scan).run span 0 0 (Text.encode text)
  (scan.line, scan.column)

/-! ## §2. Its lines -/

/-- A line of an excerpt: its number, where it starts, its size with its line end, and its text
without. -/
structure Line where
  number : Nat
  start : Nat
  size : Nat
  text : Text

/-- The lines of a text that starts at an offset, where `number` lines come before. `text` is the
current line so far, in reverse, which started at `start`. -/
def linesFrom (number start offset : Nat) (text : Text) : Text → List Line
  | [] => []
  | '\r' :: '\n' :: rest =>
    ⟨number + 1, start, offset + 2 - start, text.reverse⟩ ::
      linesFrom (number + 1) (offset + 2) (offset + 2) [] rest
  | '\n' :: rest =>
    ⟨number + 1, start, offset + 1 - start, text.reverse⟩ ::
      linesFrom (number + 1) (offset + 1) (offset + 1) [] rest
  | [c] =>
    let number := if c = '\r' then number else number + 1
    [⟨number, start, offset + c.utf8Size - start, (c :: text).reverse⟩]
  | c :: rest => linesFrom number start (offset + c.utf8Size) (c :: text) rest

/-- The lines of an excerpt. -/
def Excerpt.lines (excerpt : Excerpt) (text : Text) : List Line :=
  let shown := (text.slice? excerpt.start excerpt.stop).getD []
  linesFrom excerpt.line excerpt.start excerpt.start [] shown

/-- Is the start or the end of the span on the line? An empty span reaches as far as one byte. -/
def Line.holds (line : Line) (span : Span) : Bool :=
  let stop := line.start + line.size
  let spanStop := span.offset + max span.size 1
  (line.start ≤ span.offset && span.offset < stop) || (line.start < spanStop && spanStop ≤ stop)

end Backtrack.Diagnostic
