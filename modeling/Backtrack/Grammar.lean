import Backtrack.Parser.Evaluate

/-!
# Grammars

A grammar is a parser whose deferred parts are named: a *rule* is built anew wherever it is met, and
a *shared* parser is built once and stands in all the places that name it. Building a grammar turns
each mention of a rule into a cell of its own; no rule is built before a run reaches its cell, so
rules may mention themselves.

The one thing that can go wrong in building is a repetition whose least number exceeds its greatest.
-/

namespace Backtrack

/-! ## §1. Written grammars -/

/-- What a deferred part of a written parser names. -/
inductive Mention (κ : Type) where
  /-- A rule, built when it is first needed. -/
  | rule (name : κ)
  /-- A shared parser, built beforehand. -/
  | shared (name : String)
  deriving DecidableEq, Repr

/-- A parser as it is written, over rules named by `κ`. -/
abbrev Template (κ α : Type) := Parser (Mention κ) α

/-- A grammar: the rules, the shared parsers in the order in which they are built, and the parser to
start with. -/
structure Grammar (κ α : Type) where
  rules : List (κ × Template κ α)
  shared : List (String × Template κ α) := []
  root : Template κ α

/-! ## §2. Built parsers -/

/-- A mention of a rule in a built parser. Two mentions are told apart by their numbers. -/
structure Cell (κ : Type) where
  id : Nat
  rule : κ
  deriving DecidableEq, Repr

/-- A parser whose mentions of rules are cells. -/
abbrev BuiltParser (κ α : Type) := Parser (Cell κ) α

/-- Why a run or a construction stops without an outcome. -/
inductive Stop where
  /-- A repetition's least number exceeds its greatest. -/
  | inconsistent (min max : Nat)
  /-- Nothing has this name. -/
  | unknownName
  /-- A rule called itself without end. -/
  | endless
  /-- A match ends past the last offset. -/
  | overflow
  deriving DecidableEq, Repr

/-- The message of a stop. -/
def Stop.message : Stop → String
  | inconsistent min max => s!"repetition minimum {min} exceeds maximum {max}"
  | unknownName => "unknown name"
  | endless => "endless recursion"
  | overflow => "attempt to add with overflow"

/-- The match, if it ends at an offset. An offset is a number of 64 bits. -/
def Success.bounded {α : Type} (success : Success α) : Except Stop (Success α) :=
  if success.stop < Nat.pow 2 64 then .ok success else .error .overflow

/-- Construction numbers cells in the order in which they are made. -/
abbrev Construct := StateT Nat (Except Stop)

/-- Stops at bounds that no count can meet. -/
def Bounds.check (bounds : Bounds) : Construct Unit :=
  match bounds.max with
  | some max => if bounds.min ≤ max then pure () else throw (.inconsistent bounds.min max)
  | none => pure ()

variable {κ α : Type}

/-- Shared parsers that have been built, by name. -/
abbrev SharedParsers (κ α : Type) := List (String × BuiltParser κ α)

mutual

/-- Builds a written parser: a mention of a rule becomes a new cell, and a mention of a shared
parser becomes that parser. Parts are built from left to right, and bounds are checked once the body
is built. -/
def build (shared : SharedParsers κ α) : Template κ α → Construct (BuiltParser κ α)
  | .literal text => pure (.literal text)
  | .pattern expression => pure (.pattern expression)
  | .sequence first next => do
    return .sequence (← build shared first) (← build shared next)
  | .choice alternatives => do
    return .choice (← buildAll shared alternatives)
  | .repetition body bounds => do
    let body ← build shared body
    bounds.check
    return .repetition body bounds
  | .separated body separator bounds => do
    let body ← build shared body
    bounds.check
    return .separated body (← build shared separator) bounds
  | .option body => do return .option (← build shared body)
  | .negation body => do return .negation (← build shared body)
  | .anchored body => do return .anchored (← build shared body)
  | .mapped body convert => do return .mapped (← build shared body) convert
  | .converted body convert => do return .converted (← build shared body) convert
  | .deferred (.rule name) => do
    let id ← get
    set (id + 1)
    return .deferred ⟨id, name⟩
  | .deferred (.shared name) =>
    match shared.lookup name with
    | some parser => pure parser
    | none => throw .unknownName

/-- Builds written parsers from left to right. -/
def buildAll (shared : SharedParsers κ α) :
    List (Template κ α) → Construct (List (BuiltParser κ α))
  | [] => pure []
  | template :: rest => do
    return (← build shared template) :: (← buildAll shared rest)

end

/-- Builds shared parsers in order. A later one may mention the earlier ones. -/
def buildShared (built : SharedParsers κ α) :
    List (String × Template κ α) → Construct (SharedParsers κ α)
  | [] => pure built
  | (name, template) :: rest => do
    let parser ← build built template
    buildShared ((name, parser) :: built) rest

end Backtrack
