import Backtrack.Text.Printable

/-!
# Quoted texts

Texts between quotation marks, in which whatever could not be read back from the page is escaped:
the delimiter, the backslash, control characters, all else that is not printable, and the marks that
would join the character before them.
-/

namespace Backtrack.Text

/-- An escape by number, in lower-case hexadecimal digits. -/
def escapeCode (c : Char) : String :=
  "\\u\x7b" ++ String.ofList (Nat.toDigits 16 c.toNat) ++ "\x7d"

/-- A character between two marks `mark`, escaped if need be. -/
def escapeChar (mark : Char) (c : Char) : String :=
  if c = '\x00' then "\\0"
  else if c = '\t' then "\\t"
  else if c = '\r' then "\\r"
  else if c = '\n' then "\\n"
  else if c = '\\' then "\\\\"
  else if c = mark then "\\" ++ mark.toString
  else if isExtending c || !isPrintable c then escapeCode c
  else c.toString

/-- A text in quotation marks. -/
def quote (text : List Char) : String :=
  "\"" ++ String.join (text.map (escapeChar '"')) ++ "\""

/-- A character in single quotation marks. -/
def quoteChar (c : Char) : String :=
  "'" ++ escapeChar '\'' c ++ "'"

end Backtrack.Text
