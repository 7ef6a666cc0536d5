import Backtrack.Text.Utf8

/-!
# Sinks

A sink takes octets, either without end or up to a limit. A sink with a limit takes what still fits
and refuses the rest, and a write that is not taken whole is a fault.
-/

namespace Backtrack

/-- What can go wrong between the program and the world around it. -/
inductive Fault where
  /-- The output takes no more. -/
  | refused
  /-- Octets that should be text are not. -/
  | notText
  /-- A directory stands where a file should be. -/
  | isDirectory
  /-- Anything else, in words. -/
  | other (message : String)
  deriving DecidableEq, Repr

/-- The message of a fault. -/
def Fault.message : Fault → String
  | refused => "failed to write whole buffer"
  | notText => "stream did not contain valid UTF-8"
  | isDirectory => "Is a directory (os error 21)"
  | other message => message

/-- An output: what it has taken so far, the latest part first, and how much it still takes if there
is a limit. -/
structure Sink where
  parts : List (List UInt8) := []
  room : Option Nat := none

namespace Sink

/-- A sink that takes so many octets and then none. -/
def limited (limit : Option Nat) : Sink := { room := limit }

/-- All octets the sink has taken, in order. -/
def bytes (sink : Sink) : List UInt8 := sink.parts.reverse.flatten

/-- The sink after a write, and whether it took the write whole. -/
def write (sink : Sink) (octets : List UInt8) : Sink × Bool :=
  match sink.room with
  | none => ({ sink with parts := octets :: sink.parts }, true)
  | some room =>
    ({ parts := octets.take room :: sink.parts, room := some (room - octets.length) },
      octets.length ≤ room)

end Sink

end Backtrack
