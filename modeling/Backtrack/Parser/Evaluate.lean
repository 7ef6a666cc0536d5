import Backtrack.Parser.Render

/-!
# Running a parser

Running is defined over any monad in which a deferred parser can be called, so that the same
definition serves a run that builds rules as it meets them and any other way to give meaning to a
name. Everything else about a parser is decided here.

An index that is no place in the input is no error: it fails to match, as a text that is not there
does.
-/

namespace Backtrack

variable {m : Type → Type} [Monad m] {ρ α β : Type}

/-! ## §1. Leaves -/

/-- The text itself, if the input goes on with it. -/
def matchLiteral (input text : Text) (index : Nat) : Outcome (Value α) :=
  match (input.dropBytes? index).bind text.after? with
  | some _ => .success ⟨text, index, .text text⟩
  | none => .failure (.expectedText text index)

/-- The match of a pattern. -/
def matchPattern (input : Text) (pattern : Pattern) (index : Nat) : Outcome (Value α) :=
  match pattern.findAt input index with
  | some text => .success ⟨text, index, .text text⟩
  | none => .failure (.expectedPattern pattern.render index)

/-! ## §2. Repetition -/

/-- What the rounds of a repetition give: the values in order and the offset where the last round
ended. -/
structure Rounds (β : Type) where
  values : List β
  stop : Nat

/-- The number of rounds that a repetition can take at an index: each but the last one consumes a
byte at least. -/
def roundsWithin (input : Text) (index : Nat) : Nat :=
  input.size - index + 1

/-- Repeats `step` from `position` on, until it fails, consumes nothing, or has matched often
enough. `count` is the number of values so far, and `values` holds them, the latest first. -/
def rounds (step : Nat → m (Outcome β)) (bounds : Bounds) :
    (limit : Nat) → (position count : Nat) → (values : List β) → m (Rounds β)
  | 0, position, _, values => pure ⟨values.reverse, position⟩
  | limit + 1, position, count, values => do
    if bounds.admits count then
      match ← step position with
      | .failure _ => pure ⟨values.reverse, position⟩
      | .success success =>
        let values := success.value :: values
        if success.stop = position then pure ⟨values.reverse, position⟩
        else rounds step bounds limit success.stop (count + 1) values
    else pure ⟨values.reverse, position⟩

/-- Repeats `step` with `separator` before every round but the first. A separator that matches moves
the position even where the round after it fails, and a round that ends where its separator started
is the last. -/
def separatedRounds (step separator : Nat → m (Outcome β)) (bounds : Bounds) :
    (limit : Nat) → (position count : Nat) → (values : List β) → m (Rounds β)
  | 0, position, _, values => pure ⟨values.reverse, position⟩
  | limit + 1, position, count, values => do
    if bounds.admits count then
      match ← (if values.isEmpty then pure (some position) else separate position) with
      | none => pure ⟨values.reverse, position⟩
      | some behind =>
        match ← step behind with
        | .failure _ => pure ⟨values.reverse, behind⟩
        | .success success =>
          let values := success.value :: values
          if success.stop = position then pure ⟨values.reverse, position⟩
          else separatedRounds step separator bounds limit success.stop (count + 1) values
    else pure ⟨values.reverse, position⟩
where
  /-- The offset behind the separator, if it matches. -/
  separate (position : Nat) : m (Option Nat) := do
    match ← separator position with
    | .success success => pure (some success.stop)
    | .failure _ => pure none

/-- The outcome of a repetition's rounds: enough of them make a list, too few a failure at the
place where the repetition started. -/
def finishRounds (input : Text) (body : Parser ρ α) (bounds : Bounds) (index : Nat)
    (result : Rounds (Value α)) : Outcome (Value α) :=
  if bounds.min ≤ result.values.length then
    match input.slice? index result.stop with
    | some text => .success ⟨text, index, .list result.values⟩
    | none => .failure (.invalidIndex index)
  else .failure (.tooFew body.render bounds.min result.values.length index)

/-! ## §3. Combinators -/

/-- Two matches, one right behind the other. -/
def joinSequence (input : Text) (index : Nat) (first next : Success (Value α)) :
    Outcome (Value α) :=
  match input.slice? index next.stop with
  | some text => .success ⟨text, index, .pair first.value next.value⟩
  | none => .failure (.invalidIndex index)

/-- What an option makes of its body's outcome: a failure matches nothing, at any place that the
input has. -/
def orNothing (input : Text) (index : Nat) : Outcome (Value α) → Outcome (Value α)
  | .success success => .success (success.map .some)
  | .failure _ =>
    if input.isBoundary index then .success (.empty index .none)
    else .failure (.invalidIndex index)

/-- What a negation makes of its body's outcome. -/
def inverted (input : Text) (body : Parser ρ α) (index : Nat) :
    Outcome (Value α) → Outcome (Value α)
  | .success _ => .failure (.excluded body.render index)
  | .failure _ =>
    if input.isBoundary index then .success (.empty index .unit)
    else .failure (.invalidIndex index)

/-- What an anchor makes of its body's outcome: a success has to reach the end of the input. -/
def atEnd (input : Text) : Outcome (Value α) → Outcome (Value α)
  | .success success =>
    match input.dropBytes? success.stop with
    | some [] => .success success
    | some (found :: _) => .failure (.trailing found success.stop)
    | none => .failure (.invalidIndex success.stop)
  | .failure failure => .failure failure

/-- What a conversion that cannot refuse makes of an outcome. -/
def mapOutcome (convert : Value α → Value α) : Outcome (Value α) → Outcome (Value α)
  | .success success => .success (success.map convert)
  | .failure failure => .failure failure

/-- What a conversion that can refuse makes of an outcome. -/
def convertOutcome (body : Parser ρ α) (convert : Value α → Except String (Value α))
    (index : Nat) : Outcome (Value α) → Outcome (Value α)
  | .success success =>
    match convert success.value with
    | .ok value => .success ⟨success.text, success.index, value⟩
    | .error error => .failure (.unconverted body.render error index)
  | .failure failure => .failure failure

/-- The failure of a choice: the first failure to reach the end of the input, which says that
something did match, or else the list of what was tried. -/
def noneMatched (alternatives : List (Parser ρ α)) (index : Nat) : Option Failure → Failure
  | some termination => termination
  | none => .noAlternative (Parser.renderAll alternatives) index

namespace Parser

mutual

/-- Runs a parser on an input at an index. `call` runs what a deferred parser stands for. -/
def parseWith (call : ρ → Nat → m (Outcome (Value α))) (input : Text) :
    Parser ρ α → Nat → m (Outcome (Value α))
  | literal text, index => pure (matchLiteral input text index)
  | pattern expression, index => pure (matchPattern input expression index)
  | sequence first next, index => do
    match ← parseWith call input first index with
    | .failure failure => pure (.failure failure)
    | .success front =>
      match ← parseWith call input next front.stop with
      | .failure failure => pure (.failure failure)
      | .success back => pure (joinSequence input index front back)
  | choice alternatives, index =>
    chooseWith call input alternatives none alternatives index
  | repetition body bounds, index => do
    let result ← rounds (fun position => parseWith call input body position) bounds
      (roundsWithin input index) index 0 []
    pure (finishRounds input body bounds index result)
  | separated body separator bounds, index => do
    let result ← separatedRounds (fun position => parseWith call input body position)
      (fun position => parseWith call input separator position) bounds
      (roundsWithin input index) index 0 []
    pure (finishRounds input body bounds index result)
  | option body, index => do
    pure (orNothing input index (← parseWith call input body index))
  | negation body, index => do
    pure (inverted input body index (← parseWith call input body index))
  | anchored body, index => do
    pure (atEnd input (← parseWith call input body index))
  | mapped body convert, index => do
    pure (mapOutcome convert (← parseWith call input body index))
  | converted body convert, index => do
    pure (convertOutcome body convert index (← parseWith call input body index))
  | deferred name, index => call name index

/-- Runs alternatives in order up to the first success. `all` are the alternatives of the whole
choice, and `termination` is the first failure to reach the end of the input. -/
def chooseWith (call : ρ → Nat → m (Outcome (Value α))) (input : Text) (all : List (Parser ρ α))
    (termination : Option Failure) :
    List (Parser ρ α) → Nat → m (Outcome (Value α))
  | [], index => pure (.failure (noneMatched all index termination))
  | parser :: rest, index => do
    match ← parseWith call input parser index with
    | .success success => pure (.success success)
    | .failure failure =>
      let termination :=
        if termination.isNone && failure.kind = .termination then some failure else termination
      chooseWith call input all termination rest index

end

end Parser

end Backtrack
