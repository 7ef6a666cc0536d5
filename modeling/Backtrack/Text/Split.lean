import Backtrack.Text.Offset

/-!
# Splitting texts

A text split at every occurrence of a character. There is always one part more than there are
separators, so a text that ends with one has an empty last part.
-/

namespace Backtrack.Text

/-- The parts of a text between the separators. -/
def splitOn (separator : Char) : Text → List Text
  | [] => [[]]
  | c :: rest =>
    if c = separator then [] :: splitOn separator rest
    else
      match splitOn separator rest with
      | [] => [[c]]
      | part :: parts => (c :: part) :: parts

end Backtrack.Text
