import Backtrack.Text.Offset

/-!
# Outcomes

A parser either succeeds, with the text it matched and a value, or fails, with the place and the
reason. Both say where: a success starts at its index and ends behind its text, and a failure points
at one index and consumes nothing.
-/

namespace Backtrack

/-! ## §1. Successes -/

/-- A match: the matched text, the offset where it starts, and the value made of it. -/
structure Success (α : Type) where
  text : Text
  index : Nat
  value : α
  deriving BEq

namespace Success

/-- The match of nothing at an offset. -/
def empty {α : Type} (index : Nat) (value : α) : Success α := ⟨[], index, value⟩

/-- The number of bytes matched. -/
def size {α : Type} (success : Success α) : Nat := Text.size success.text

/-- The offset where the match ends. -/
def stop {α : Type} (success : Success α) : Nat := success.index + success.size

/-- The same match with its value converted. -/
def map {α β : Type} (convert : α → β) (success : Success α) : Success β :=
  ⟨success.text, success.index, convert success.value⟩

end Success

/-! ## §2. Failures -/

/-- Why a parser failed. -/
inductive FailureKind where
  /-- The text does not match. -/
  | parsing
  /-- The text matched and its value could not be converted. -/
  | conversion
  /-- The text matched and more text follows. -/
  | termination
  /-- The text matched where it must not. -/
  | inversion
  deriving DecidableEq, Repr

/-- The name of the kind. -/
def FailureKind.name : FailureKind → String
  | parsing => "parsing"
  | conversion => "conversion"
  | termination => "termination"
  | inversion => "inversion"

/-- A failure to match. -/
structure Failure where
  kind : FailureKind
  index : Nat
  message : String
  deriving DecidableEq, Repr

namespace Failure

/-- The failure in one line. -/
def describe (failure : Failure) : String :=
  s!"{failure.kind.name} failure at index {failure.index}: {failure.message}"

/-- A given text was expected. -/
def expectedText (text : Text) (index : Nat) : Failure :=
  ⟨.parsing, index, s!"Expected \"{text.toString}\" at index {index}"⟩

/-- A match of a pattern was expected. -/
def expectedPattern (pattern : String) (index : Nat) : Failure :=
  ⟨.parsing, index, s!"Expected text to match the pattern {pattern} at index {index}"⟩

/-- No alternative matched. -/
def noAlternative (alternatives : List String) (index : Nat) : Failure :=
  ⟨.parsing, index,
    s!"Expected at least one of the following at index {index}: " ++ ", ".intercalate alternatives⟩

/-- Too few repetitions matched. -/
def tooFew (parser : String) (min actual index : Nat) : Failure :=
  ⟨.parsing, index, s!"Expected to match {parser} at least {min} times. " ++
    s!"Actually matched {actual} times."⟩

/-- The index is no place in the input. -/
def invalidIndex (index : Nat) : Failure :=
  ⟨.parsing, index, s!"Invalid input index {index}"⟩

/-- Something matched that must not. -/
def excluded (parser : String) (index : Nat) : Failure :=
  ⟨.inversion, index, s!"Expected not to match {parser} at index {index}"⟩

/-- A value could not be converted. -/
def unconverted (parser error : String) (index : Nat) : Failure :=
  ⟨.conversion, index, s!"Failed to convert {parser}: {error}"⟩

/-- A character stands where the input should end. -/
def trailing (found : Char) (index : Nat) : Failure :=
  ⟨.termination, index, s!"Expected end of input at index {index}, found '{found}'"⟩

end Failure

/-! ## §3. Outcomes -/

/-- What a parser answers. -/
inductive Outcome (α : Type) where
  | success (success : Success α)
  | failure (failure : Failure)
  deriving BEq

namespace Outcome

variable {α : Type}

/-- The matched text; a failure has none. -/
def text : Outcome α → Text
  | success s => s.text
  | failure _ => []

/-- The offset where the match starts or where the failure points. -/
def index : Outcome α → Nat
  | success s => s.index
  | failure f => f.index

/-- The number of bytes matched. -/
def size (outcome : Outcome α) : Nat := Text.size outcome.text

/-- The offset behind what was matched. -/
def stop (outcome : Outcome α) : Nat := outcome.index + outcome.size

/-- The value of a success. -/
def value? : Outcome α → Option α
  | success s => some s.value
  | failure _ => none

/-- The failure, if it is one. -/
def failure? : Outcome α → Option Failure
  | success _ => none
  | failure f => some f

/-- The message of a failure; a success has none. -/
def message : Outcome α → String
  | success _ => ""
  | failure f => f.message

/-- Is it a success? -/
def isSuccess : Outcome α → Bool
  | success _ => true
  | failure _ => false

end Outcome

end Backtrack
