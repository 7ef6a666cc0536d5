import Backtrack.Grammar

/-!
# Sessions

A grammar that has been built can be run many times. What the runs share is the *store*, which
remembers the rules that have been built so far, one for each cell that a run has reached. A rule
that cannot be built leaves its cell as it was.

Recursion through rules is bounded by a number that no grammar exceeds in which a rule cannot reach
itself without consuming something: at each place of the input every rule can be entered once.
-/

namespace Backtrack

variable {κ α : Type}

/-! ## §1. The store -/

/-- What runs leave behind: the number of cells made so far, the parsers of the cells that have been
resolved, and the rules resolved, the latest first, those that could not be built among them. -/
structure Store (κ α : Type) where
  cells : Nat
  parsers : List (Nat × BuiltParser κ α) := []
  resolved : List κ := []

namespace Store

/-- The parser of a cell, if the cell has been resolved. -/
def find? (store : Store κ α) (cell : Cell κ) : Option (BuiltParser κ α) :=
  store.parsers.lookup cell.id

/-- The store that remembers that a rule has been called for. -/
def note (store : Store κ α) (rule : κ) : Store κ α :=
  { store with resolved := rule :: store.resolved }

/-- The store that remembers a cell's parser and the cells made with it. -/
def fill (store : Store κ α) (cell : Cell κ) (parser : BuiltParser κ α) (cells : Nat) :
    Store κ α :=
  { store with cells, parsers := (cell.id, parser) :: store.parsers }

end Store

/-! ## §2. Sessions and runs -/

/-- A built grammar: the rules as they are written, the shared parsers, and the parser to start
with. -/
structure Session (κ α : Type) where
  rules : List (κ × Template κ α)
  shared : SharedParsers κ α
  root : BuiltParser κ α

/-- Builds a grammar: the shared parsers first, then the root. -/
def Grammar.start (grammar : Grammar κ α) : Except Stop (Session κ α × Store κ α) := do
  let ((shared, root), cells) ← (do
    let shared ← buildShared [] grammar.shared
    let root ← build shared grammar.root
    return (shared, root) : Construct _).run 0
  return (⟨grammar.rules, shared, root⟩, { cells })

/-- A run changes the store and ends with a result, or stops without one; the store keeps what was
done until then. -/
abbrev Run (κ α β : Type) := ExceptT Stop (StateM (Store κ α)) β

namespace Session

variable [DecidableEq κ]

/-- The parser of a cell. The first time, the rule is built and the store remembers it. -/
def resolve (session : Session κ α) (cell : Cell κ) : Run κ α (BuiltParser κ α) := do
  match (← get).find? cell with
  | some parser => pure parser
  | none =>
    modify (·.note cell.rule)
    match session.rules.lookup cell.rule with
    | none => throw .unknownName
    | some template =>
      match (build session.shared template).run (← get).cells with
      | .error stop => throw stop
      | .ok (parser, cells) =>
        modify (·.fill cell parser cells)
        pure parser

/-- Runs what a cell stands for, entering at most so many rules one inside the other. -/
def call (session : Session κ α) (input : Text) :
    (depth : Nat) → Cell κ → Nat → Run κ α (Outcome (Value α))
  | 0, _, _ => throw .endless
  | depth + 1, cell, index => do
    let parser ← session.resolve cell
    parser.parseWith (session.call input depth) input index

/-- The number of rules that can be entered one inside the other on an input: all of them at each
place. -/
def depthFor (session : Session κ α) (input : Text) : Nat :=
  session.rules.length * (input.size + 1)

/-- Runs the session's parser on an input at an index. -/
def parseAt (session : Session κ α) (input : Text) (index : Nat) :
    Run κ α (Outcome (Value α)) :=
  session.root.parseWith (session.call input (session.depthFor input)) input index

/-- Runs the session's parser on a store, which gives the result, the store afterwards, and the
rules that were resolved on the way, in order. -/
def run (session : Session κ α) (store : Store κ α) (input : Text) (index : Nat) :
    Except Stop (Outcome (Value α)) × Store κ α × List κ :=
  let (result, after) := ((session.parseAt input index).run).run { store with resolved := [] }
  (result, after, after.resolved.reverse)

end Session

end Backtrack
