import Backtrack.Text.CodeRange

/-!
# Properties by name

Properties of characters have names, and short names beside them. Case, blanks, hyphens and low
lines do not tell two names apart, and neither does what is not in ASCII.
-/

namespace Backtrack.Text

/-- A property of characters under its names. Its ranges are kept as text. -/
structure NamedRanges where
  names : List String
  text : String

/-- What is left of a name when all that does not count is dropped. -/
def plainName (name : List Char) : List Char :=
  (name.filter fun c => c.toNat < 0x80 && c != ' ' && c != '_' && c != '-').map Char.toLower

/-- Is the property called by this plain name? -/
def NamedRanges.isCalled (property : NamedRanges) (name : List Char) : Bool :=
  property.names.any fun known => plainName known.toList = name

/-- The ranges of a property. -/
def NamedRanges.ranges (property : NamedRanges) : CodeRanges :=
  .ofText property.text

end Backtrack.Text
