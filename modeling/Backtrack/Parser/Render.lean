import Backtrack.Parser.Basic

/-!
# The written form of a parser

Failures name the parser that failed by its written form. Texts stand in quotation marks and
patterns between slashes, a sequence is joined by tildes and a choice by bars. Conversions and
anchors do not show, and a deferred parser does not show what it stands for.
-/

namespace Backtrack

/-- The bounds in brackets: a bound that says nothing is left out. -/
def Bounds.render (bounds : Bounds) : String :=
  match bounds.max with
  | none => s!"[{bounds.min}- ]"
  | some max => if bounds.min = 0 then s!"[ -{max}]" else s!"[{bounds.min}-{max}]"

/-- The pattern's source between slashes. -/
def Pattern.render (pattern : Pattern) : String :=
  "/" ++ pattern.regex.source.toString ++ "/"

namespace Parser

variable {ρ α : Type}

mutual

/-- The written form. -/
def render : Parser ρ α → String
  | literal text => "\"" ++ text.toString ++ "\""
  | pattern expression => expression.render
  | sequence first next => first.render ++ " ~ " ++ next.render
  | choice alternatives => " | ".intercalate (renderAll alternatives)
  | repetition body bounds => "Repeat" ++ bounds.render ++ "(" ++ body.render ++ ")"
  | separated body separator bounds =>
    "Repeat" ++ bounds.render ++ "(" ++ body.render ++ "/" ++ separator.render ++ ")"
  | option body => "(" ++ body.render ++ ")?"
  | negation body => "!(" ++ body.render ++ ")"
  | anchored body => body.render
  | mapped body _ => body.render
  | converted body _ => body.render
  | deferred _ => "[Lazy]"

/-- The written forms of several parsers. -/
def renderAll : List (Parser ρ α) → List String
  | [] => []
  | parser :: rest => parser.render :: renderAll rest

end

end Parser

end Backtrack
