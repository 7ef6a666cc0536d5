import Backtrack.Regex.Node

/-!
# Programs

A regular expression as a list of instructions, each at an address. A run of a program takes one
character after another; where two ways are open it prefers the first. A program ends with its only
stop, at which the expression has matched.
-/

namespace Backtrack.Regex

/-- One instruction. -/
inductive Instruction where
  /-- Takes a character of the set and goes on behind. -/
  | take (chars : CharSet)
  /-- Goes on behind where the assertion holds. -/
  | check (condition : Assertion)
  /-- Goes on at the first address, or else at the second. -/
  | fork (first second : Nat)
  /-- Goes on at an address. -/
  | jump (target : Nat)
  /-- The expression has matched. -/
  | stop
  deriving DecidableEq, Repr

/-- Going on, or leaving, in the order that a repetition prefers. -/
def Instruction.choose (greedy : Bool) (go leave : Nat) : Instruction :=
  if greedy then fork go leave else fork leave go

namespace Node

/-- The number of instructions of an expression. -/
def span : Node → Nat
  | empty => 0
  | literal text => text.length
  | set _ => 1
  | assertion _ => 1
  | group _ body => body.span
  | concat first second => first.span + second.span
  | alt first second => first.span + second.span + 2
  | repetition _ 0 none body => body.span + 2
  | repetition _ min none body => min * body.span + 1
  | repetition _ min (some max) body => min * body.span + (max - min) * (body.span + 1)

/-- The instructions of an expression at an address. They leave at the address behind them. A
repetition holds its body as often as it must match it, and behind that once for each further time
that it may, or once for all if there is no bound. -/
def code (start : Nat) : Node → List Instruction
  | empty => []
  | literal text => text.map fun c => .take (.single c)
  | set chars => [.take chars]
  | assertion condition => [.check condition]
  | group _ body => body.code start
  | concat first second => first.code start ++ second.code (start + first.span)
  | alt first second =>
    let other := start + first.span + 2
    .fork (start + 1) other :: first.code (start + 1) ++
      .jump (other + second.span) :: second.code other
  | repetition greedy 0 none body =>
    let behind := start + body.span + 2
    let choose := Instruction.choose greedy (start + 1) behind
    choose :: body.code (start + 1) ++ [choose]
  | repetition greedy min none body =>
    let again := start + (min - 1) * body.span
    (List.range min).flatMap (fun n => body.code (start + n * body.span)) ++
      [.choose greedy again (again + body.span + 1)]
  | repetition greedy min (some max) body =>
    let options := start + min * body.span
    let behind := options + (max - min) * (body.span + 1)
    (List.range min).flatMap (fun n => body.code (start + n * body.span)) ++
      (List.range (max - min)).flatMap fun n =>
        let option := options + n * (body.span + 1)
        .choose greedy (option + 1) behind :: body.code (option + 1)

/-- The program of an expression. -/
def program (node : Node) : Array Instruction :=
  (node.code 0 ++ [Instruction.stop]).toArray

end Node

end Backtrack.Regex
