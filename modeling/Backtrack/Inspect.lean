import Backtrack.Parser.Render
import Backtrack.Text.Quoted

/-!
# Values, outcomes and parsers laid open

The texts that show how a value, an outcome or a parser is made up, with every text in quotation
marks. A chain of pairs is shown flat, joined by tildes, however it is nested.
-/

namespace Backtrack

variable {ρ α : Type}

/-! ## §1. Values -/

namespace Value

mutual

/-- How a value is made up, given that of atoms. -/
def inspect (atomText : α → String) : Value α → String
  | text chars => Text.quote chars
  | pair first next => first.inspect atomText ++ " ~ " ++ next.inspect atomText
  | list items => "[" ++ ", ".intercalate (inspectAll atomText items) ++ "]"
  | none => "None"
  | some value => "Some(" ++ value.inspect atomText ++ ")"
  | unit => "()"
  | atom a => atomText a

/-- How each of several values is made up. -/
def inspectAll (atomText : α → String) : List (Value α) → List String
  | [] => []
  | value :: rest => value.inspect atomText :: inspectAll atomText rest

end

/-- A value as it is shown: a chain of pairs says that it is one. -/
def display (atomText : α → String) (value : Value α) : String :=
  match value with
  | pair _ _ => "Seq(" ++ value.inspect atomText ++ ")"
  | _ => value.inspect atomText

end Value

/-! ## §2. Outcomes -/

/-- The kind's name with a capital. -/
def FailureKind.inspect : FailureKind → String
  | parsing => "Parsing"
  | conversion => "Conversion"
  | termination => "Termination"
  | inversion => "Inversion"

/-- How a failure is made up. -/
def Failure.inspect (failure : Failure) : String :=
  "Failure \x7b kind: " ++ failure.kind.inspect ++ ", index: " ++ toString failure.index ++
    ", message: " ++ Text.quote failure.message.toList ++ " \x7d"

/-- How a success is made up, given the text of its value. -/
def Success.inspect (valueText : α → String) (success : Success α) : String :=
  "Success \x7b text: " ++ Text.quote success.text ++ ", index: " ++ toString success.index ++
    ", value: " ++ valueText success.value ++ " \x7d"

/-- How an outcome is made up. -/
def Outcome.inspect (valueText : α → String) : Outcome α → String
  | success s => "Success(" ++ s.inspect valueText ++ ")"
  | failure f => "Failure(" ++ f.inspect ++ ")"

/-! ## §3. Parsers -/

/-- The greatest count, if there is one. -/
def Bounds.inspectMax (bounds : Bounds) : String :=
  match bounds.max with
  | none => "None"
  | some max => s!"Some({max})"

namespace Parser

/-- A named record with fields. -/
def recordText (name : String) (fields : List (String × String)) : String :=
  name ++ " \x7b " ++ ", ".intercalate (fields.map fun field => field.1 ++ ": " ++ field.2) ++
    " \x7d"

/-- The record of a repetition. -/
def repetitionText (body : String) (bounds : Bounds) : String :=
  recordText "Repeat"
    [("parser", body), ("min", toString bounds.min), ("max", bounds.inspectMax)]

/-- How a parser is made up. Of a deferred parser only `resolved` tells something, and a choice
shows its written form. -/
def inspect (resolved : ρ → Bool) : Parser ρ α → String
  | literal chars => recordText "Literal" [("text", Text.quote chars)]
  | pattern expression => recordText "Pattern" [("regex", Text.quote expression.regex.source)]
  | sequence first next =>
    recordText "Sequence" [("first", first.inspect resolved), ("next", next.inspect resolved)]
  | choice alternatives =>
    recordText "Choice"
      [("alternatives", Text.quote (" | ".intercalate (renderAll alternatives)).toList)]
  | repetition body bounds => repetitionText (body.inspect resolved) bounds
  | separated body separator bounds =>
    recordText "SeparatedRepeat"
      [("repeat", repetitionText (body.inspect resolved) bounds),
        ("separator", separator.inspect resolved)]
  | option body => recordText "Optional" [("parser", body.inspect resolved)]
  | negation body => recordText "Not" [("parser", body.inspect resolved)]
  | anchored body => recordText "End" [("parser", body.inspect resolved)]
  | mapped body _ => recordText "Map" [("parser", body.inspect resolved)]
  | converted body _ => recordText "TryMap" [("parser", body.inspect resolved)]
  | deferred name => recordText "Lazy" [("resolved", toString (resolved name))]

end Parser

end Backtrack
