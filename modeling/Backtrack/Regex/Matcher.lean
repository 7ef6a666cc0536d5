import Backtrack.Regex.Program

/-!
# Matching

A program is run in one pass over a text. At each place the matcher holds a list of *threads*, the
addresses at which the program may be, in order of preference. The threads are explored up to the
instructions that take a character, or to the stop; no address is explored twice at one place, so a
list is never longer than the program and the pass is linear in the text. A thread that stops ends
all threads after it, and the last stop found is the match.

There are two ways to look for a match. `matchAt` is anchored: it starts where the given rest of the
text starts. `search` is not: it starts a new thread, less preferred than all others, at each place
until a match is found, and so finds the leftmost match.
-/

namespace Backtrack.Regex

/-! ## §1. Exploring -/

/-- A thread: the place where it started, and the address at which it is. -/
structure Thread where
  start : Nat
  address : Nat
  deriving DecidableEq, Repr

/-- The thread at another address. -/
def Thread.at (thread : Thread) (address : Nat) : Thread :=
  { thread with address }

/-- What exploring comes to: the threads that wait for a character, where the thread that stopped
had started, if one did, and the last place at which each address was explored. -/
structure Explored where
  waiting : List Thread
  stopped : Option Nat
  seen : Array Nat

/-- Explores threads in order of preference at a place between two neighbours. Places are counted
from one, so `seen` is zero for an address that was never explored. `waiting` holds the threads that
wait, the latest first. Every address puts at most two threads in its place, which bounds the steps.
-/
def explore (program : Array Instruction) (place : Nat) (before after : Option Char) :
    (steps : Nat) → (seen : Array Nat) → (waiting todo : List Thread) → Explored
  | 0, seen, waiting, _ => ⟨waiting.reverse, none, seen⟩
  | _ + 1, seen, waiting, [] => ⟨waiting.reverse, none, seen⟩
  | steps + 1, seen, waiting, thread :: todo =>
    if seen[thread.address]? = some place then
      explore program place before after steps seen waiting todo
    else
      let seen := seen.setIfInBounds thread.address place
      match program[thread.address]? with
      | some (.take _) => explore program place before after steps seen (thread :: waiting) todo
      | some (.check condition) =>
        let todo :=
          if condition.holds before after then thread.at (thread.address + 1) :: todo else todo
        explore program place before after steps seen waiting todo
      | some (.fork first second) =>
        explore program place before after steps seen waiting
          (thread.at first :: thread.at second :: todo)
      | some (.jump target) =>
        explore program place before after steps seen waiting (thread.at target :: todo)
      | some .stop => ⟨waiting.reverse, some thread.start, seen⟩
      | none => explore program place before after steps seen waiting todo

/-- Explores all of the threads. -/
def exploreAll (program : Array Instruction) (place : Nat) (before after : Option Char)
    (seen : Array Nat) (threads : List Thread) : Explored :=
  explore program place before after (threads.length + 2 * program.size + 1) seen [] threads

/-- The thread behind the next character, if it takes that. -/
def Thread.take? (program : Array Instruction) (c : Char) (thread : Thread) : Option Thread :=
  match program[thread.address]? with
  | some (.take chars) =>
    if chars.contains c then some (thread.at (thread.address + 1)) else none
  | _ => none

/-- The threads behind the next character. -/
def advance (program : Array Instruction) (c : Char) (threads : List Thread) : List Thread :=
  threads.filterMap (Thread.take? program c)

/-! ## §2. Running -/

/-- Explores a place between two neighbours. While there is no match and `restart` is set, a new
thread starts there, behind the given ones. -/
def arrive (program : Array Instruction) (restart : Bool) (before after : Option Char) (place : Nat)
    (best : Option (Nat × Nat)) (seen : Array Nat) (threads : List Thread) : Explored :=
  exploreAll program (place + 1) before after seen
    (if restart && best.isNone then threads ++ [⟨place, 0⟩] else threads)

/-- The match after a place was explored: a thread that stopped there comes before what was found
earlier, because only threads that the earlier match leaves alive are explored. -/
def Explored.found (explored : Explored) (place : Nat) (best : Option (Nat × Nat)) :
    Option (Nat × Nat) :=
  (explored.stopped.map (·, place)).or best

/-- Runs threads over the rest of a text, and if `restart` is set, starts a new one at each place
until a match is found. A match is the place where it starts and the place where it ends. -/
def run (program : Array Instruction) (restart : Bool) (before : Option Char) (place : Nat)
    (best : Option (Nat × Nat)) (seen : Array Nat) (threads : List Thread) :
    (rest : List Char) → Option (Nat × Nat)
  | [] => (arrive program restart before none place best seen threads).found place best
  | c :: rest =>
    let explored := arrive program restart before (some c) place best seen threads
    let best := explored.found place best
    match advance program c explored.waiting with
    | [] =>
      if restart && best.isNone then
        run program restart (some c) (place + 1) best explored.seen [] rest
      else best
    | next => run program restart (some c) (place + 1) best explored.seen next rest

/-- The addresses of a program, none of which was explored. -/
def unexplored (program : Array Instruction) : Array Nat :=
  Array.replicate program.size 0

/-- The number of characters that the program matches at the start of `rest`, where `before` is the
character in front of it. -/
def matchAt (program : Array Instruction) (before : Option Char) (rest : List Char) : Option Nat :=
  (run program false before 0 none (unexplored program) [⟨0, 0⟩] rest).map (·.2)

/-- The leftmost match in `rest`, as the numbers of characters in front of its start and of its end,
where `before` is the character in front of `rest`. -/
def search (program : Array Instruction) (before : Option Char) (rest : List Char) :
    Option (Nat × Nat) :=
  run program true before 0 none (unexplored program) [] rest

end Backtrack.Regex
