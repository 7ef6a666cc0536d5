import Backtrack.Numeral.Digits
import Backtrack.Regex.Assertion
import Backtrack.Regex.Gap
import Backtrack.Regex.Segment
import Backtrack.Text.CaseFold
import Backtrack.Text.DecimalDigit

/-!
# Escapes

What a backslash and the characters after it stand for: a character, a set of characters, or an
assertion. Letters and digits without a meaning are refused, so that they can get one. Every match
is a text, so what could match a part of a character is refused as well.
-/

namespace Backtrack.Regex

/-! ## §1. Sets under options -/

/-- The set with its letters in both cases, if case is ignored. -/
def Options.fold (options : Options) (set : CharSet) : CharSet :=
  if options.ignoreCase then
    set.folded (if options.unicode then Text.foldRows else CharSet.asciiRows)
  else set

/-- The set or its complement, which is refused where characters beyond ASCII mean nothing. -/
def Options.complementIf? (options : Options) (negated : Bool) (set : CharSet) : Option CharSet :=
  if negated then
    if options.unicode then some set.complement else none
  else some set

/-- The digits, of all scripts or of ASCII. -/
def Options.digits (options : Options) : CharSet :=
  if options.unicode then ⟨Text.decimalDigitRanges⟩ else .range 0x30 0x39

/-- White space. -/
def Options.blanks (options : Options) : CharSet :=
  if options.unicode then ⟨Text.blankRanges⟩ else ⟨[(0x09, 0x0D), (0x20, 0x20)]⟩

/-- The characters of words. -/
def Options.words (options : Options) : CharSet :=
  if options.unicode then ⟨Text.wordRanges⟩
  else ⟨[(0x30, 0x39), (0x41, 0x5A), (0x5F, 0x5F), (0x61, 0x7A)]⟩

/-! ## §2. Escapes -/

/-- What an escape stands for. -/
inductive Escape where
  | char (c : Char)
  | set (chars : CharSet)
  | assertion (condition : Assertion)

namespace Escape

/-- Reads exactly so many hexadecimal digits onto a value. -/
def fixedHex (options : Options) (value : Nat) : Nat → List Char → Option (Nat × List Char)
  | 0, rest => some (value, rest)
  | _ + 1, [] => none
  | n + 1, c :: rest => do
    fixedHex options (value * 16 + (← Numeral.digitValue? 16 c)) n (options.skip rest)

/-- The characters up to a closing brace, without the gaps between them, and what is behind it.
There are fewer characters than `steps`. -/
def braced? (options : Options) : (steps : Nat) → List Char → Option (List Char × List Char)
  | 0, _ => none
  | steps + 1, rest =>
    match options.skip rest with
    | [] => none
    | '\x7d' :: rest => some ([], rest)
    | c :: rest => (braced? options steps rest).map fun (text, rest) => (c :: text, rest)

/-- Reads the number of a character: in braces, or with a fixed count of digits. Two digits name an
octet where characters beyond ASCII mean nothing, and one that is no character is refused. -/
def hexChar? (options : Options) (steps digits : Nat) (rest : List Char) :
    Option (Char × List Char) :=
  match options.skip rest with
  | '\x7b' :: rest => do
    let (text, rest) ← braced? options steps rest
    if text.isEmpty then none
    else return (← Numeral.charOfCode? (← Numeral.numberOf? 16 text), rest)
  | rest => do
    let (code, rest) ← fixedHex options 0 digits rest
    if digits = 2 && !options.unicode && 0x7F < code then none
    else return (← Numeral.charOfCode? code, rest)

/-- Reads the name of a property: in braces, or a single letter. -/
def property? (options : Options) (steps : Nat) (negated : Bool) (rest : List Char) :
    Option (CharSet × List Char) := do
  let (name, rest) ←
    match options.skip rest with
    | [] | '\\' :: _ => none
    | '\x7b' :: rest => braced? options steps rest
    | c :: rest => some ([c], rest)
  let (without, found) ← if options.unicode then Property.read? name else none
  return (.complementIf (negated != without) (options.fold found), rest)

/-- The letters and hyphens at the start of a text, without the gaps between them, and the rest. -/
def placeName (options : Options) : (steps : Nat) → List Char → List Char × List Char
  | 0, rest => ([], rest)
  | steps + 1, rest =>
    match options.skip rest with
    | [] => ([], [])
    | c :: rest =>
      if c.isAlpha || c = '-' then
        let (name, rest) := placeName options steps rest
        (c :: name, rest)
      else ([], c :: rest)

/-- Reads the place among words that stands in braces, if there is one. Braces that hold no letter
first belong to a repetition. -/
def wordPlace? (options : Options) (steps : Nat) (rest : List Char) :
    Option (WordPlace × List Char) :=
  match rest with
  | '\x7b' :: inside =>
    match placeName options steps inside with
    | ([], []) => none
    | ([], _) => some (.boundary, rest)
    | (name, '\x7d' :: rest) =>
      match String.ofList name with
      | "start" => some (.start, rest)
      | "end" => some (.stop, rest)
      | "start-half" => some (.startHalf, rest)
      | "end-half" => some (.stopHalf, rest)
      | _ => none
    | _ => none
  | _ => some (.boundary, rest)

/-- May the character be escaped to stand for itself? So may all of ASCII but letters, digits and
the two angle brackets. -/
def standsForItself (c : Char) : Bool :=
  c.toNat < 0x80 && !c.isAlphanum && c != '<' && c != '>'

/-- Reads a set that may be negated. -/
def ofSet? (options : Options) (negated : Bool) (chars : CharSet) (rest : List Char) :
    Option (Escape × List Char) :=
  (options.complementIf? negated chars).map fun chars => (set chars, rest)

/-- Reads what stands behind a backslash, which is no longer than `steps`. -/
def read? (options : Options) (steps : Nat) : List Char → Option (Escape × List Char)
  | [] => none
  | 'x' :: rest => (hexChar? options steps 2 rest).map fun (c, rest) => (char c, rest)
  | 'u' :: rest => (hexChar? options steps 4 rest).map fun (c, rest) => (char c, rest)
  | 'U' :: rest => (hexChar? options steps 8 rest).map fun (c, rest) => (char c, rest)
  | 'p' :: rest => (property? options steps false rest).map fun (chars, rest) => (set chars, rest)
  | 'P' :: rest => (property? options steps true rest).map fun (chars, rest) => (set chars, rest)
  | 'd' :: rest => ofSet? options false options.digits rest
  | 'D' :: rest => ofSet? options true options.digits rest
  | 's' :: rest => ofSet? options false options.blanks rest
  | 'S' :: rest => ofSet? options true options.blanks rest
  | 'w' :: rest => ofSet? options false options.words rest
  | 'W' :: rest => ofSet? options true options.words rest
  | 'b' :: rest =>
    (wordPlace? options steps rest).map fun (place, rest) =>
      (assertion (.word place options.unicode), rest)
  | c :: rest =>
    let found : Option Escape :=
      match c with
      | 'n' => some (char '\n')
      | 't' => some (char '\t')
      | 'r' => some (char '\r')
      | 'f' => some (char '\x0c')
      | 'v' => some (char '\x0b')
      | 'a' => some (char '\x07')
      | 'A' => some (assertion .textStart)
      | 'z' => some (assertion .textEnd)
      | 'B' => some (assertion (.word .noBoundary options.unicode))
      | '<' => some (assertion (.word .start options.unicode))
      | '>' => some (assertion (.word .stop options.unicode))
      | c => if standsForItself c then some (char c) else none
    found.map (·, rest)

end Escape

end Backtrack.Regex
