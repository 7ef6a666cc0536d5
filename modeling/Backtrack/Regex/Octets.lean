import Backtrack.Regex.CharSet
import Backtrack.Text.Utf8

/-!
# Sets of characters as octets

An automaton that reads octets needs, for a set of characters, the sequences of octet ranges that
encode them. This module finds the sequences, in order, and counts the states and transitions of the
automata that read them: one that reads forward and shares equal endings, and one that reads
backward and shares equal beginnings.
-/

namespace Backtrack.Regex

/-- A closed range of octets. -/
abbrev OctetRange := Nat × Nat

/-- One range of octets after another. -/
abbrev OctetSequence := List OctetRange

/-! ## §1. Sequences -/

/-- The sequences for the numbers between two, both included, written with a first digit and so many
digits of six bits behind it. The first digit is marked by an offset, and the others by `0x80`. -/
def sequencesOf (mark : Nat) : (digits : Nat) → (first last : Nat) → List OctetSequence
  | 0, first, last => [[(mark + first, mark + last)]]
  | digits + 1, first, last =>
    let unit := 64 ^ (digits + 1)
    let lead (low high : Nat) (behind : List OctetSequence) : List OctetSequence :=
      behind.map ((mark + low, mark + high) :: ·)
    if first / unit = last / unit then
      lead (first / unit) (first / unit) (sequencesOf 0x80 digits (first % unit) (last % unit))
    else
      let fromStart := first % unit = 0
      let toEnd := last % unit = unit - 1
      let lower := if fromStart then first / unit else first / unit + 1
      let upper := if toEnd then last / unit else last / unit - 1
      let head :=
        if fromStart then []
        else lead (first / unit) (first / unit)
          (sequencesOf 0x80 digits (first % unit) (unit - 1))
      let middle :=
        if upper < lower then []
        else lead lower upper [List.replicate (digits + 1) (0x80, 0xBF)]
      let tail :=
        if toEnd then []
        else lead (last / unit) (last / unit) (sequencesOf 0x80 digits 0 (last % unit))
      head ++ middle ++ tail

/-- The code points of one encoded length: the first and the last of them, the digits behind the
first one, and the mark of the first. -/
structure EncodedLength where
  first : Nat
  last : Nat
  digits : Nat
  mark : Nat

/-- The lengths of encoded characters, where three octets are on both sides of the surrogates. -/
def encodedLengths : List EncodedLength :=
  [⟨0x00, 0x7F, 0, 0x00⟩, ⟨0x80, 0x7FF, 1, 0xC0⟩, ⟨0x800, 0xD7FF, 2, 0xE0⟩,
   ⟨0xE000, 0xFFFF, 2, 0xE0⟩, ⟨0x10000, 0x10FFFF, 3, 0xF0⟩]

/-- The sequences that encode the characters of a set, in order. -/
def CharSet.octetSequences (set : CharSet) : List OctetSequence :=
  set.ranges.flatMap fun (first, last) =>
    encodedLengths.flatMap fun length =>
      let lower := max first length.first
      let upper := min last length.last
      if upper < lower then [] else sequencesOf length.mark length.digits lower upper

/-! ## §2. States -/

/-- Sequences by their first range: what is left of each behind it. -/
def behindHeads (sequences : List OctetSequence) : List (List OctetSequence) :=
  (sequences.splitBy fun a b => a.head? == b.head?).map fun group => group.map List.tail

/-- What can be left to read at the places inside the sequences, one entry for each beginning. A
sequence has at most so many octets. -/
def leftovers : (octets : Nat) → List OctetSequence → List (List OctetSequence)
  | 0, _ => []
  | octets + 1, sequences =>
    if sequences.all List.isEmpty then []
    else sequences :: (behindHeads sequences).flatMap (leftovers octets)

/-- How many transitions leave the places of a list. -/
def transitions (places : List (List OctetSequence)) : Nat :=
  (places.map fun sequences => (behindHeads sequences).length).foldl (· + ·) 0

/-- The states and the transitions of the automaton that reads one character of the set forward: of
places with equal leftovers there is one, and one place is behind the character. -/
def CharSet.forwardStates (set : CharSet) : Nat × Nat :=
  let places := (leftovers 4 set.octetSequences).eraseDups
  (places.length + 1, transitions places)

/-- The states of the automaton that reads one character of the set backward, and how many
sequences it has to choose from. Every beginning of a sequence has a state, and there is one on
each side of the character. -/
def CharSet.backwardStates (set : CharSet) : Nat × Nat :=
  let sequences := set.octetSequences
  (transitions (leftovers 4 sequences) + 2, sequences.length)

end Backtrack.Regex
