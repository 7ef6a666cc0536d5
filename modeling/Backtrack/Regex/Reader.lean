import Backtrack.Regex.CharClass
import Backtrack.Regex.Node
import Backtrack.Text.Alphanumeric

/-!
# Reading regular expressions

A written expression is read from left to right with a stack of the groups that are open. Each step
takes at least one character, so the number of characters bounds the number of steps. An expression
that does not follow the grammar is none, and neither is one in which groups, repetitions, choices,
sequences and classes stand too deep within each other.
-/

namespace Backtrack.Regex

/-! ## §1. Open groups -/

/-- A part of an expression, and how deep what was written for it is nested. A part that is none is
a switch, which cannot be repeated. -/
structure Part where
  node : Option Node
  depth : Nat

/-- A group that is open. -/
structure Group where
  /-- The switches in force outside the group, which come back when it closes. -/
  outside : Options
  /-- The number of the group, if it has one. -/
  number : Option Nat := none
  /-- The alternatives that are complete, the latest first. -/
  branches : List Part := []
  /-- The parts of the current alternative, the latest first. -/
  parts : List Part := []

/-- The depth of a list: that of its deepest part, and one more if there are several. -/
def depthOf (parts : List Part) : Nat :=
  (parts.map Part.depth).foldl max (0 : Nat) + if 1 < parts.length then 1 else 0

/-- Parts in the order in which they were read, the latest first, as one part. -/
def joinParts (parts : List Part) : Part :=
  ⟨some ((parts.filterMap Part.node).foldl (fun rest part => part.andThen rest) .empty),
    depthOf parts⟩

/-- Alternatives, the latest first, as one part. -/
def joinBranches (branches : List Part) : Part :=
  ⟨some (Node.choice (branches.filterMap Part.node).reverse), depthOf branches⟩

/-- The group as one part without its parentheses. -/
def Group.body (group : Group) : Part :=
  joinBranches (joinParts group.parts :: group.branches)

/-- The group as one part. -/
def Group.part (group : Group) : Part :=
  let body := group.body
  let node :=
    match group.number with
    | some number => body.node.map (.group number)
    | none => body.node
  ⟨node, body.depth + 1⟩

/-- The group with one more part. -/
def Group.push (group : Group) (part : Part) : Group :=
  { group with parts := part :: group.parts }

/-- The group at the start of its next alternative. -/
def Group.branch (group : Group) : Group :=
  { group with branches := joinParts group.parts :: group.branches, parts := [] }

/-- The group with its last part replaced, if it has one that can be repeated. -/
def Group.repeatLast? (group : Group) (repeated : Node → Node) : Option Group :=
  match group.parts with
  | ⟨some node, depth⟩ :: earlier =>
    some { group with parts := ⟨some (repeated node), depth + 1⟩ :: earlier }
  | _ => none

/-! ## §2. Names, switches and counts -/

/-- Reads the name of a group up to its closing angle bracket. -/
def readName? (rest : List Char) : Option (String × List Char) :=
  match rest.dropWhile (· != '>') with
  | '>' :: behind =>
    match rest.takeWhile (· != '>') with
    | [] => none
    | first :: more =>
      let starts := first = '_' || Text.isAlphabetic first
      let goesOn := more.all fun c => c ∈ ['_', '.', '[', ']'] || Text.isAlphanumeric c
      if starts && goesOn then some (String.ofList (first :: more), behind) else none
  | _ => none

/-- Reads switches up to the parenthesis or colon that ends them. `seen` holds the letters read so
far, `dangling` says that a minus waits for a letter, and the result tells whether a colon ended
them. -/
def readSwitches (options : Options) (on : Bool) (seen : List Char) (dangling : Bool) :
    List Char → Option (Options × Bool × List Char)
  | [] => none
  | ':' :: rest => if dangling then none else some (options, true, rest)
  | ')' :: rest => if dangling || seen.isEmpty then none else some (options, false, rest)
  | '-' :: rest => if on then readSwitches options false seen true rest else none
  | letter :: rest =>
    if letter ∈ seen then none
    else
      match options.set? letter on with
      | some options => readSwitches options on (letter :: seen) false rest
      | none => none

/-- Reads decimal digits onto a number, with gaps between them. -/
def readDigits (options : Options) : (steps : Nat) → (number : Option Nat) → List Char →
    Option Nat × List Char
  | steps + 1, number, c :: rest =>
    if c.isDigit then
      let number := number.getD 0 * 10 + (c.toNat - '0'.toNat)
      readDigits options steps (some number) (options.skip rest)
    else (number, c :: rest)
  | _, number, rest => (number, rest)

/-- Reads a count, with blanks around it. There is none without a digit or when the number is past
32 bits. -/
def readCount? (options : Options) (steps : Nat) (rest : List Char) : Option (Nat × List Char) :=
  match readDigits options steps none (Text.trimStart rest) with
  | (some count, rest) =>
    if count < Nat.pow 2 32 then some (count, options.skip (Text.trimStart rest)) else none
  | _ => none

/-- Reads the bounds of a counted repetition behind the opening brace. -/
def readBounds? (options : Options) (steps : Nat) (rest : List Char) :
    Option (Nat × Option Nat × List Char) := do
  let (min, rest) ← readCount? options steps (options.skip rest)
  match rest with
  | '\x7d' :: rest => return (min, some min, options.skip rest)
  | ',' :: rest =>
    match options.skip rest with
    | '\x7d' :: rest => return (min, none, options.skip rest)
    | rest =>
      let (max, rest) ← readCount? options steps rest
      match rest with
      | '\x7d' :: rest =>
        if min ≤ max then return (min, some max, options.skip rest) else none
      | _ => none
  | _ => none

/-- Whether a repetition is greedy: a question mark behind it turns that over. -/
def readGreed (options : Options) : List Char → Bool × List Char
  | '?' :: rest => (options.swapGreed, rest)
  | rest => (!options.swapGreed, rest)

/-! ## §3. Steps -/

/-- Where the reader stands. -/
structure Reading where
  options : Options
  group : Group
  outer : List Group := []
  /-- How many groups have a number. -/
  numbered : Nat := 0
  names : List String := []
  rest : List Char

/-- The state with one more part read. -/
def Reading.push (state : Reading) (node : Node) (rest : List Char) : Reading :=
  { state with group := state.group.push ⟨some node, 0⟩, rest }

/-- The state inside a group without a number that opens here. -/
def Reading.enter (state : Reading) (options : Options) (rest : List Char) : Reading :=
  { state with
    options, group := { outside := state.options }, outer := state.group :: state.outer, rest }

/-- The state inside a group with a number that opens here. -/
def Reading.enterNumbered (state : Reading) (rest : List Char) : Reading :=
  let number := state.numbered + 1
  { state with
    group := { outside := state.options, number := some number }
    outer := state.group :: state.outer, numbered := number, rest }

/-- One character under the switches in force. -/
def Reading.char (state : Reading) (c : Char) : Node :=
  if state.options.ignoreCase then .ofSet (state.options.fold (.single c)) else .literal [c]

/-- What a dot stands for. It is refused where characters beyond ASCII mean nothing, because a match
is a text. -/
def Options.dot? (options : Options) : Option CharSet :=
  if !options.unicode then none
  else if options.dotAll then some .any
  else
    let newline := CharSet.single '\n'
    some (.complement (if options.carriageReturn then .union newline (.single '\r') else newline))

/-- Reads what stands behind an opening parenthesis. -/
def Reading.openGroup? (state : Reading) (rest : List Char) : Option Reading :=
  match state.options.skip rest with
  | '?' :: 'P' :: '<' :: rest => named rest
  | '?' :: '<' :: '=' :: _ => none
  | '?' :: '<' :: '!' :: _ => none
  | '?' :: '<' :: rest => named rest
  | '?' :: rest => do
    let (options, isGroup, rest) ← readSwitches state.options true [] false rest
    if isGroup then return state.enter options rest
    else return { state with options, group := state.group.push ⟨none, 0⟩, rest }
  | rest => some (state.enterNumbered rest)
where
  named (rest : List Char) : Option Reading := do
    let (name, rest) ← readName? rest
    if name ∈ state.names then none
    else return { state.enterNumbered rest with names := name :: state.names }

/-- Applies a repetition to the last part. -/
def Reading.repeatLast? (state : Reading) (min : Nat) (max : Option Nat) (rest : List Char) :
    Option Reading := do
  let (greedy, rest) := readGreed state.options rest
  return { state with group := ← state.group.repeatLast? (·.repeated greedy min max), rest }

/-- Takes one step, with at least one character left and no more behind it than `steps`. -/
def Reading.step? (state : Reading) (steps : Nat) (c : Char) (rest : List Char) :
    Option Reading :=
  let options := state.options
  match c with
  | '(' => state.openGroup? rest
  | ')' =>
    match state.outer with
    | [] => none
    | parent :: outer =>
      let group := parent.push state.group.part
      some { state with options := state.group.outside, group, outer, rest }
  | '|' => some { state with group := state.group.branch, rest }
  | '[' =>
    (CharClass.read? options steps rest).map fun (cls, rest) =>
      { state with group := state.group.push ⟨some (.ofSet cls.set), cls.depth⟩, rest }
  | '*' => state.repeatLast? 0 none rest
  | '+' => state.repeatLast? 1 none rest
  | '?' => state.repeatLast? 0 (some 1) rest
  | '\x7b' => do
    let (min, max, rest) ← readBounds? options steps rest
    state.repeatLast? min max rest
  | '.' => options.dot?.map fun set => state.push (.ofSet set) rest
  | '^' =>
    let condition := if options.multiLine then .lineStart options.carriageReturn else .textStart
    some (state.push (.assertion condition) rest)
  | '$' =>
    let condition := if options.multiLine then .lineEnd options.carriageReturn else .textEnd
    some (state.push (.assertion condition) rest)
  | '\\' =>
    match Escape.read? options steps rest with
    | some (.char c, rest) => some (state.push (state.char c) rest)
    | some (.set chars, rest) => some (state.push (.ofSet chars) rest)
    | some (.assertion condition, rest) => some (state.push (.assertion condition) rest)
    | none => none
  | c => some (state.push (state.char c) rest)

/-- Takes steps to the end of the expression, where no group may be open. -/
def Reading.finish? : (steps : Nat) → Reading → Option Part
  | steps, state =>
    match state.options.skip state.rest, steps with
    | [], _ => if state.outer.isEmpty then some state.group.body else none
    | _ :: _, 0 => none
    | c :: rest, steps + 1 =>
      match state.step? steps c rest with
      | some state => finish? steps state
      | none => none

/-- How deep an expression may be nested. -/
def depthLimit : Nat := 250

/-- The expression that the source denotes under the given switches, if it is one. -/
def Node.read? (options : Options) (source : List Char) : Option Node := do
  let state : Reading := { options, group := { outside := options }, rest := source }
  let part ← state.finish? source.length
  if part.depth ≤ depthLimit then part.node else none

end Backtrack.Regex
