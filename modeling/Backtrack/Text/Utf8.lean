/-!
# UTF-8

Texts as octets and octets as texts. Octets need not be the encoding of any text; where a text has
to be shown all the same, each longest part that starts an encoding and breaks off is replaced.
-/

namespace Backtrack.Text

/-- The octets that encode a text. -/
def encode (text : List Char) : List UInt8 :=
  text.flatMap String.utf8EncodeChar

/-- The text that the octets encode, if they encode one. -/
def decode? (octets : List UInt8) : Option (List Char) :=
  (String.fromUTF8? ⟨octets.toArray⟩).map String.toList

/-! ## Decoding with replacements -/

/-- A character of which some octets have been read: its value so far, how many octets it still
needs, and the bounds of the next one. -/
structure PartialChar where
  value : Nat
  owed : Nat
  low : Nat
  high : Nat

/-- What an octet is at the start of a character. -/
inductive Lead where
  | char (c : Char)
  | start (part : PartialChar)
  | stray

/-- Reads the first octet of a character. -/
def Lead.of (octet : Nat) : Lead :=
  if octet < 0x80 then char (Char.ofNat octet)
  else if 0xC2 ≤ octet && octet ≤ 0xDF then start ⟨octet - 0xC0, 1, 0x80, 0xBF⟩
  else if octet = 0xE0 then start ⟨0, 2, 0xA0, 0xBF⟩
  else if octet = 0xED then start ⟨0xD, 2, 0x80, 0x9F⟩
  else if 0xE1 ≤ octet && octet ≤ 0xEF then start ⟨octet - 0xE0, 2, 0x80, 0xBF⟩
  else if octet = 0xF0 then start ⟨0, 3, 0x90, 0xBF⟩
  else if octet = 0xF4 then start ⟨4, 3, 0x80, 0x8F⟩
  else if 0xF1 ≤ octet && octet ≤ 0xF3 then start ⟨octet - 0xF0, 3, 0x80, 0xBF⟩
  else stray

/-- The character that stands for octets that encode none. -/
def replacement : Char := '\uFFFD'

/-- What the first octet of a character settles: the characters complete by then, and the one begun.
-/
def beginChar (octet : UInt8) : List Char × Option PartialChar :=
  match Lead.of octet.toNat with
  | .char c => ([c], none)
  | .start part => ([], some part)
  | .stray => ([replacement], none)

/-- What an octet settles behind a character of which some octets have been read, if there is one.
-/
def continueChar : Option PartialChar → UInt8 → List Char × Option PartialChar
  | none, octet => beginChar octet
  | some part, octet =>
    if part.low ≤ octet.toNat && octet.toNat ≤ part.high then
      let value := part.value * 64 + (octet.toNat - 0x80)
      if part.owed = 1 then ([Char.ofNat value], none)
      else ([], some ⟨value, part.owed - 1, 0x80, 0xBF⟩)
    else
      let (chars, next) := beginChar octet
      (replacement :: chars, next)

/-- Decodes octets behind a character of which some octets have been read, if there is one. -/
def decodeReplacingFrom : Option PartialChar → List UInt8 → List Char
  | none, [] => []
  | some _, [] => [replacement]
  | part, octet :: rest =>
    let (chars, next) := continueChar part octet
    chars ++ decodeReplacingFrom next rest

/-- Decodes octets, with replacements for what encodes no character. -/
def decodeReplacing (octets : List UInt8) : List Char :=
  decodeReplacingFrom none octets

end Backtrack.Text
