import Backtrack.Text.CodeRange

/-!
# Sets of characters

The sets that a character class of a regular expression denotes. A set is kept as the closed ranges
of its code points, in order and apart: between two ranges there is always a character that is not
in the set. Two sets written differently are therefore equal when they hold the same characters.
Surrogates are no characters, so a range may lead across them and they separate nothing.
-/

namespace Backtrack.Regex

/-! ## §1. Neighbours and ranges -/

/-- The code point of the next character. -/
def codeAfter (code : Nat) : Nat :=
  if code = 0xD7FF then 0xE000 else code + 1

/-- The code point of the character before. -/
def codeBefore (code : Nat) : Nat :=
  if code = 0xE000 then 0xD7FF else code - 1

/-- The last code point. -/
def lastCode : Nat := 0x10FFFF

/-- A set of characters, by the ranges of its code points. -/
structure CharSet where
  ranges : Text.CodeRanges
  deriving DecidableEq, Repr

namespace CharSet

/-- Ranges with one more: what it touches becomes one range with it. -/
def insertRange (first last : Nat) : Text.CodeRanges → Text.CodeRanges
  | [] => [(first, last)]
  | (lower, upper) :: rest =>
    if codeAfter last < lower then (first, last) :: (lower, upper) :: rest
    else if codeAfter upper < first then (lower, upper) :: insertRange first last rest
    else insertRange (min first lower) (max last upper) rest

/-- What lies between ranges, from a code point on. -/
def gaps (start : Nat) : Text.CodeRanges → Text.CodeRanges
  | [] => if start ≤ lastCode then [(start, lastCode)] else []
  | (first, last) :: rest =>
    let behind := gaps (codeAfter last) rest
    if start < first then (start, codeBefore first) :: behind else behind

/-! ## §2. Sets -/

/-- Membership. -/
def contains (set : CharSet) (c : Char) : Bool :=
  set.ranges.has c

/-- No character. -/
def none : CharSet := ⟨[]⟩

/-- All characters. -/
def any : CharSet := ⟨[(0, lastCode)]⟩

/-- The characters between two code points, both included. -/
def range (first last : Nat) : CharSet := ⟨[(first, last)]⟩

/-- The set of one character. -/
def single (c : Char) : CharSet := range c.toNat c.toNat

/-- The characters of both sets. -/
def union (a b : CharSet) : CharSet :=
  ⟨a.ranges.foldr (fun bounds ranges => insertRange bounds.1 bounds.2 ranges) b.ranges⟩

/-- The set of a list of ranges, which need not be in order. -/
def ofRanges (ranges : Text.CodeRanges) : CharSet :=
  union ⟨ranges⟩ none

/-- The union of a list of sets. -/
def unions (sets : List CharSet) : CharSet :=
  sets.foldr union none

/-- The characters that are not in the set. -/
def complement (a : CharSet) : CharSet :=
  ⟨gaps 0 a.ranges⟩

/-- The characters that are in both sets. -/
def inter (a b : CharSet) : CharSet :=
  complement (union (complement a) (complement b))

/-- The characters of one set that are not in the other. -/
def diff (a b : CharSet) : CharSet := inter a (complement b)

/-- The characters of exactly one of the two sets. -/
def symmDiff (a b : CharSet) : CharSet := union (diff a b) (diff b a)

/-- The set or its complement. -/
def complementIf (negated : Bool) (a : CharSet) : CharSet :=
  if negated then complement a else a

/-- Is the set within ASCII? -/
def isAscii (a : CharSet) : Bool :=
  a.ranges.all (·.2 < 0x80)

/-- The one character of the set, if it has exactly one. -/
def one? (a : CharSet) : Option Char :=
  match a.ranges with
  | [(first, last)] => if first = last then some (Char.ofNat first) else Option.none
  | _ => Option.none

/-! ## §3. Letters in both cases -/

/-- The images of a set under the rows of a case mapping. -/
def image (rows : List Text.CaseRow) (a : CharSet) : CharSet :=
  ofRanges (rows.flatMap fun row =>
    a.ranges.flatMap fun bounds => (row.imageOf bounds.1 bounds.2).map fun code => (code, code))

/-- The set and what is equal to one of it up to case: what folds to the same character. -/
def folded (rows : List Text.CaseRow) (a : CharSet) : CharSet :=
  let up := union (a.image rows) a
  union (up.image (rows.map (·.inverse))) up

/-- The case mapping of the letters of ASCII alone. -/
def asciiRows : List Text.CaseRow := [⟨0x41, 0x5A, 1, 32⟩]

end CharSet

end Backtrack.Regex
