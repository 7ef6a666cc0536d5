import Backtrack.Numeral.Digits
import Backtrack.Text.Offset

/-!
# Quoted strings in documents

A string stands between quotation marks, in which a backslash starts an escape, or between
apostrophes, in which nothing does. Between three of either it may run over several lines: a line
end right behind the opening is dropped, and a backslash at the end of a line joins it with the next
text.
-/

namespace Backtrack.Toml

/-! ## §1. Characters -/

/-- The control characters that no text may hold, those that end lines among them. -/
def isControl (c : Char) : Bool :=
  (c.toNat < 0x20 && c ≠ '\t') || c = '\x7f'

/-- Is the character a blank within a line? -/
def isSpace (c : Char) : Bool :=
  c = ' ' || c = '\t'

/-- The character of a number in hexadecimal digits. -/
def charOf? (digits : Text) : Option Char :=
  (Numeral.numberOf? 16 digits).bind Numeral.charOfCode?

/-! ## §2. Where strings end -/

/-- Splits a text at the next closing mark. A backslash protects the character behind it if
`escapes` is set. -/
def splitQuoted? (mark : Char) (escapes : Bool) : Text → Option (Text × Text)
  | [] => none
  | [c] => if c = mark then some ([], []) else none
  | c :: d :: rest =>
    if c = mark then some ([], d :: rest)
    else if escapes && c = '\\' then
      (splitQuoted? mark escapes rest).map fun (inside, after) => (c :: d :: inside, after)
    else (splitQuoted? mark escapes (d :: rest)).map fun (inside, after) => (c :: inside, after)

/-- Splits a text behind three marks at its start. Up to two marks in front of them belong to the
string. -/
def closeLong? (mark : Char) (text : Text) : Option (Text × Text) :=
  let count := min (text.takeWhile (· = mark)).length 5
  if count < 3 then none else some (List.replicate (count - 3) mark, text.drop count)

/-- Splits a text at the next three closing marks. -/
def splitLong? (mark : Char) (escapes : Bool) : Text → Option (Text × Text)
  | [] => none
  | [_] => none
  | c :: d :: rest =>
    match closeLong? mark (c :: d :: rest) with
    | some parts => some parts
    | none =>
      if escapes && c = '\\' then
        (splitLong? mark escapes rest).map fun (inside, after) => (c :: d :: inside, after)
      else (splitLong? mark escapes (d :: rest)).map fun (inside, after) => (c :: inside, after)

/-! ## §3. What strings stand for -/

/-- The character of an escape with one letter. -/
def escaped? (c : Char) : Option Char :=
  match c with
  | 'b' => some '\x08'
  | 't' => some '\t'
  | 'n' => some '\n'
  | 'f' => some '\x0c'
  | 'r' => some '\r'
  | 'e' => some '\x1b'
  | '"' => some '"'
  | '\\' => some '\\'
  | _ => none

/-- How many hexadecimal digits follow the letter of an escape by number. -/
def escapeWidth? (c : Char) : Option Nat :=
  match c with
  | 'x' => some 2
  | 'u' => some 4
  | 'U' => some 8
  | _ => none

/-- Where a string is being read. -/
inductive Reading where
  /-- In plain text. -/
  | plain
  /-- Behind a backslash. -/
  | escape
  /-- In an escape by number: the digits still owed, and those read, the latest first. -/
  | digits (owed : Nat) (read : Text)
  /-- Behind a backslash and blanks, with the end of the line still to come. -/
  | joining
  /-- Behind a joined line end, where blanks and line ends are dropped. -/
  | joined

namespace Reading

/-- Reads a character of plain text. -/
def ofPlain (c : Char) : Reading × Text :=
  if c = '\\' then (escape, []) else (plain, [c])

/-- Reads a character: where the string is read on, and what it stands for. Only a string on several
lines (`long`) may join them. -/
def next? (long : Bool) : Reading → Char → Option (Reading × Text)
  | plain, c => some (ofPlain c)
  | escape, c =>
    match escaped? c, escapeWidth? c with
    | some char, _ => some (plain, [char])
    | none, some width => some (digits width [], [])
    | none, none =>
      if long && c = '\n' then some (joined, [])
      else if long && isSpace c then some (joining, [])
      else none
  | digits owed read, c =>
    if 1 < owed then some (digits (owed - 1) (c :: read), [])
    else (charOf? (c :: read).reverse).map fun char => (plain, [char])
  | joining, c =>
    if isSpace c then some (joining, []) else if c = '\n' then some (joined, []) else none
  | joined, c => if isSpace c || c = '\n' then some (joined, []) else some (ofPlain c)

/-- May a string end here? -/
def isComplete : Reading → Bool
  | plain | joined => true
  | _ => false

end Reading

/-- Resolves the escapes of a text. -/
def unescapeFrom? (long : Bool) : Reading → Text → Option Text
  | reading, [] => if reading.isComplete then some [] else none
  | reading, c :: rest => do
    let (reading, chars) ← reading.next? long c
    return chars ++ (← unescapeFrom? long reading rest)

/-- The text with a line feed for each line end. -/
def unifyLineEnds : Text → Text
  | [] => []
  | '\r' :: '\n' :: rest => '\n' :: unifyLineEnds rest
  | c :: rest => c :: unifyLineEnds rest

/-- The text without a line end at its start. -/
def dropLineEnd : Text → Text
  | '\n' :: rest => rest
  | text => text

/-! ## §4. Reading strings -/

/-- Reads a string on one line, behind its opening mark: what it stands for, and what follows. -/
def readShort? (mark : Char) (text : Text) : Option (Text × Text) := do
  let escapes := mark = '"'
  let (inside, after) ← splitQuoted? mark escapes text
  if inside.any isControl then none
  else
    let content ← if escapes then unescapeFrom? false .plain inside else some inside
    return (content, after)

/-- Reads a string on several lines, behind its opening marks. -/
def readLong? (mark : Char) (text : Text) : Option (Text × Text) := do
  let escapes := mark = '"'
  let (inside, after) ← splitLong? mark escapes text
  let inside := dropLineEnd (unifyLineEnds inside)
  if inside.any fun c => isControl c && c ≠ '\n' then none
  else
    let content ← if escapes then unescapeFrom? true .plain inside else some inside
    return (content, after)

/-- Reads a string from its first mark on. -/
def readString? : Text → Option (Text × Text)
  | [] => none
  | mark :: rest =>
    if mark = '"' || mark = '\'' then
      match Text.after? [mark, mark] rest with
      | some rest => readLong? mark rest
      | none => readShort? mark rest
    else none

end Backtrack.Toml
