/-!
# Ranges of code points

Properties of characters are kept as tables of ranges, and a character has a property when its code
point lies in one of the ranges. Long tables are written as texts. Case mappings are kept as rows:
every character of a row moves by the same distance.
-/

namespace Backtrack.Text

/-- A property of characters: the closed ranges of the code points that have it, in order. -/
abbrev CodeRanges := List (Nat × Nat)

/-- Does the character's code point lie in one of the ranges? -/
def CodeRanges.has (ranges : CodeRanges) (c : Char) : Bool :=
  ranges.any fun range => range.1 ≤ c.toNat && c.toNat ≤ range.2

/-- A digit of a number in base sixteen, in capitals. -/
def hexDigit (c : Char) : Nat :=
  if c.isDigit then c.toNat - '0'.toNat else c.toNat - 'A'.toNat + 10

/-- Ranges as they are written in a table: the number of a code point, or the first and the last of
a range with a hyphen between them, with a blank behind each but the last. A stroke behind a range
means every second code point of it. -/
def CodeRanges.ofText (text : String) : CodeRanges :=
  readFrom none 0 text.toList
where
  /-- `first` is the number before the hyphen, and `code` the number that is being read. -/
  readFrom (first : Option Nat) (code : Nat) : List Char → CodeRanges
    | [] => [(first.getD code, code)]
    | ['/'] => everySecond (first.getD code) code
    | '/' :: _ :: rest => everySecond (first.getD code) code ++ readFrom none 0 rest
    | ' ' :: rest => (first.getD code, code) :: readFrom none 0 rest
    | '-' :: rest => readFrom (some code) 0 rest
    | c :: rest => readFrom first (16 * code + hexDigit c) rest
  /-- Every second code point between two, both included. -/
  everySecond (first last : Nat) : CodeRanges :=
    (List.range ((last - first) / 2 + 1)).map fun n => (first + 2 * n, first + 2 * n)

/-- A row of a case mapping: from `first` to `last`, every `stride`-th code point moves by `shift`.
-/
structure CaseRow where
  first : Nat
  last : Nat
  stride : Nat
  shift : Int

/-- Does the row move this code point? -/
def CaseRow.covers (row : CaseRow) (code : Nat) : Bool :=
  row.first ≤ code && code ≤ row.last && (code - row.first) % row.stride = 0

/-- The image of a character under the first row that moves it, and the character itself if none
does. -/
def CaseRow.image (rows : List CaseRow) (c : Char) : Char :=
  match rows.find? (·.covers c.toNat) with
  | some row => Char.ofNat (c.toNat + row.shift).toNat
  | none => c

/-- The row that moves every character back. -/
def CaseRow.inverse (row : CaseRow) : CaseRow :=
  ⟨(row.first + row.shift).toNat, (row.last + row.shift).toNat, row.stride, -row.shift⟩

/-- Where the row moves the code points between two, both included. -/
def CaseRow.imageOf (row : CaseRow) (first last : Nat) : List Nat :=
  let lowest := row.first + (first - row.first + row.stride - 1) / row.stride * row.stride
  let highest := min last row.last
  if highest < lowest then []
  else
    (List.range ((highest - lowest) / row.stride + 1)).map fun (step : Nat) =>
      (((lowest + step * row.stride : Nat) : Int) + row.shift).toNat

end Backtrack.Text
