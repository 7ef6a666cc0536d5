/-!
# Texts and byte offsets

A text is a list of characters, and a place in it is the number of bytes that UTF-8 takes for the
characters before it. Most numbers are no place in a given text: they lie past its end or inside a
character. Cutting a text at a number is therefore partial, and it is total exactly on the
character boundaries.
-/

namespace Backtrack

/-- A text, character by character. -/
abbrev Text := List Char

namespace Text

/-! ## §1. Sizes and suffixes -/

/-- The number of bytes that UTF-8 takes for the text. -/
def size : Text → Nat
  | [] => 0
  | c :: rest => c.utf8Size + size rest

/-- The text from a byte offset to its end, if the offset is a character boundary. -/
def dropBytes? : Text → Nat → Option Text
  | text, 0 => some text
  | [], _ + 1 => none
  | c :: rest, n + 1 =>
    if c.utf8Size ≤ n + 1 then dropBytes? rest (n + 1 - c.utf8Size) else none

/-- The first bytes of the text, if the cut is a character boundary. -/
def takeBytes? : Text → Nat → Option Text
  | _, 0 => some []
  | [], _ + 1 => none
  | c :: rest, n + 1 =>
    if c.utf8Size ≤ n + 1 then (takeBytes? rest (n + 1 - c.utf8Size)).map (c :: ·) else none

/-! ## §2. Boundaries and slices -/

/-- Is the offset a place between characters, the two ends of the text included? -/
def isBoundary (text : Text) (offset : Nat) : Bool :=
  (text.dropBytes? offset).isSome

/-- The characters between two offsets, if both are boundaries and the first is not the later. -/
def slice? (text : Text) (start stop : Nat) : Option Text :=
  if start ≤ stop then (text.dropBytes? start).bind (·.takeBytes? (stop - start)) else none

/-- The character that ends at the offset, if the offset is a boundary past the start. -/
def charBefore? : Text → Nat → Option Char
  | [], _ => none
  | c :: rest, n =>
    if n = c.utf8Size then some c
    else if c.utf8Size < n then charBefore? rest (n - c.utf8Size)
    else none

/-- What is left of the text behind a given beginning, if it begins so. -/
def after? : (beginning text : Text) → Option Text
  | [], text => some text
  | _ :: _, [] => none
  | b :: beginning, c :: text => if b = c then after? beginning text else none

/-- The text as a string. -/
def toString (text : Text) : String :=
  String.ofList text

end Text

end Backtrack
