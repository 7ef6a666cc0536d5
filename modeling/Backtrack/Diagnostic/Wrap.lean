import Backtrack.Text.Alphanumeric
import Backtrack.Text.Escaped
import Backtrack.Text.LineBreak
import Backtrack.Text.Split

/-!
# Wrapping

Text set in lines of a limited width, with something in front of every line. The text is taken apart
where lines may end and behind the hyphens within words; what is still too wide for any line is cut.
Each line takes as many parts as fit, and the blanks behind its last part are dropped.
-/

namespace Backtrack.Diagnostic

/-! ## §1. Words -/

/-- A part of a text that stays on one line, and the number of blanks behind it. The text may be
empty. -/
structure Word where
  text : Text
  blanks : Nat

/-- The width of a word without its blanks. -/
def Word.width (word : Word) : Nat := Text.shownWidth word.text

/-- The word of a text that may end in blanks. -/
def Word.ofText (text : Text) : Word :=
  let blanks := (text.reverse.takeWhile (· = ' ')).length
  ⟨text.take (text.length - blanks), blanks⟩

/-- May a word end behind the character? Hyphens are looked at later, and what shows only at the end
of a line ends none. -/
def endsWord (c : Char) : Bool :=
  c ≠ '-' && c ≠ '\u00AD'

/-- The flags with the last that is set taken back. -/
def dropLastFlag : List Bool → List Bool
  | [] => []
  | flag :: rest => if rest.any id then flag :: dropLastFlag rest else false :: rest

/-- For each character of a text, whether a word ends behind it, the last word apart. -/
def wordEnds (text : Text) : List Bool :=
  dropLastFlag (List.zipWith (fun c ends => ends && endsWord c) text (Text.lineBreaks text))

/-- Cuts a text behind each character whose flag is set. The characters of escape sequences have no
flags. `part` is the part that is being filled, in reverse. -/
def cutAtFlags (part : Text) : List (Char × Bool) → List Bool → List Text
  | [], _ => if part.isEmpty then [] else [part.reverse]
  | (c, hidden) :: rest, flags =>
    if hidden then cutAtFlags (c :: part) rest flags
    else
      match flags with
      | true :: flags => (c :: part).reverse :: cutAtFlags [] rest flags
      | flags => cutAtFlags (c :: part) rest flags.tail

/-- The words of a text, with no character lost. -/
def words (text : Text) : List Word :=
  (cutAtFlags [] (Text.markEscapes text) (wordEnds (Text.dropEscapes text))).map Word.ofText

/-! ## §2. Parts of words -/

/-- Splits a text behind each hyphen between two letters or numbers. `part` is the part that is
being filled, in reverse. -/
def splitAtHyphens (part : Text) : Text → List Text
  | [] => [part.reverse]
  | [c] => [(c :: part).reverse]
  | c :: d :: rest =>
    if c = '-' && (part.head?.any Text.isAlphanumeric) && Text.isAlphanumeric d then
      (c :: part).reverse :: splitAtHyphens [] (d :: rest)
    else splitAtHyphens (c :: part) (d :: rest)

/-- Parts of a text as words, of which the last keeps the blanks. -/
def wordsOfParts (blanks : Nat) : List Text → List Word
  | [] => []
  | [last] => [⟨last, blanks⟩]
  | part :: rest => ⟨part, 0⟩ :: wordsOfParts blanks rest

/-- The word, split behind its hyphens. -/
def Word.split (word : Word) : List Word :=
  wordsOfParts word.blanks (splitAtHyphens [] word.text)

/-- Cuts a text into parts of a limited width, not within escape sequences. `part` is the part that
is being filled, in reverse, and `used` is its width. -/
def cutFrom (limit : Nat) (part : Text) (used : Nat) : List (Char × Bool) → List Text
  | [] => if part.isEmpty then [] else [part.reverse]
  | (c, hidden) :: rest =>
    let width := if hidden then 0 else Text.runningWidth c
    if !hidden && 0 < used && limit < used + width then
      part.reverse :: cutFrom limit [c] width rest
    else cutFrom limit (c :: part) (used + width) rest

/-- The word, cut into parts if it is too wide. -/
def Word.cut (limit : Nat) (word : Word) : List Word :=
  if limit < word.width then
    wordsOfParts word.blanks (cutFrom limit [] 0 (Text.markEscapes word.text))
  else [word]

/-! ## §3. Lines -/

/-- Sets words in lines: the current line is limited by `limit` and those after it by `next`. `line`
holds the words of the current line, the latest first, and `used` is their width with blanks. -/
def setFrom (limit next : Nat) (line : List Word) (used : Nat) : List Word → List (List Word)
  | [] => [line.reverse]
  | word :: rest =>
    if limit < used + word.width && !line.isEmpty then
      line.reverse :: setFrom next next [word] (word.width + word.blanks) rest
    else setFrom limit next (word :: line) (used + word.width + word.blanks) rest

/-- The words of a line with their blanks, those at the end of the line apart. -/
def lineText : List Word → Text
  | [] => []
  | [word] => word.text
  | word :: rest => word.text ++ List.replicate word.blanks ' ' ++ lineText rest

/-- The width of a page. -/
def pageWidth : Nat := 198

/-- The lines of a piece of text that holds no line feed. An empty word in front lets the first line
stay empty where only later lines have room for the first word. -/
def setPiece (firstIndent indent : Text) (piece : Text) : List Text :=
  let next := pageWidth - Text.shownWidth indent
  let all := ⟨[], 0⟩ :: ((words piece).flatMap Word.split).flatMap (·.cut next)
  (setFrom (pageWidth - Text.shownWidth firstIndent) next [] 0 all).map lineText

/-- The text in lines, the first behind `firstIndent` and all others behind `indent`. -/
def fill (firstIndent indent : Text) (text : Text) : Text :=
  let lines := (Text.splitOn '\n' text).flatMap (setPiece firstIndent indent)
  match lines with
  | [] => firstIndent
  | first :: rest => firstIndent ++ first ++ rest.flatMap fun line => '\n' :: indent ++ line

end Backtrack.Diagnostic
