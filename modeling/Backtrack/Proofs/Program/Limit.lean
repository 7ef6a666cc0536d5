import Backtrack.Program.Run
import Backtrack.Proofs.Console.Limit

/-! # Programs whose output gives up

    The program writes where its console does and nowhere else, so it writes up
    to a limit what it would have written without one, and says that its output
    was refused if that was not all. Until a console is ready, nothing is
    written, and whether there is a limit is not asked.

    * `breaks_ofAction`: actions as parts of the program.
    * `World.run_limited`: the program. -/

namespace Backtrack.Program

open Backtrack.Language (RuleName)
open Console (Breaks Ends InStep breaks_pure breaks_evaluate breaks_runSession ignores_note
  ignores_throw)

variable {β : Type}

/-! ## §1. Tasks -/

/-- A fault of an action is an error of the program. -/
theorem Task.run_ofAction (action : Action β) (console : Console) :
    (Task.ofAction action).run.run console =
      ((action.run.run console).1.mapError ProgramError.fault, (action.run.run console).2) :=
  StateT.run_map (Except.mapError ProgramError.fault) action.run console

/-- An action breaks off at the same limit as a part of the program. -/
theorem breaks_ofAction {refusal : Fault} {action : Action β} (h : Breaks refusal action) :
    Breaks (ProgramError.fault refusal) (Task.ofAction action) where
  adds whole hendless := by
    rw [Task.run_ofAction]
    exact h.adds whole hendless
  ends limit whole cut hstep := by
    rw [Task.run_ofAction, Task.run_ofAction]
    rcases h.ends limit whole cut hstep with ⟨hsame, hafter⟩ | ⟨hrefused, hafter⟩
    · exact .inl ⟨congrArg (Except.mapError ProgramError.fault) hsame, hafter⟩
    · exact .inr ⟨congrArg (Except.mapError ProgramError.fault) hrefused, hafter⟩

section Tasks

variable (session : Session RuleName Expression)

theorem breaks_evaluateAll (expressions : List Text) :
    Breaks Fault.refused (evaluateAll session expressions) := by
  induction expressions with
  | nil => exact breaks_pure _ 0
  | cons expression rest ih =>
    exact (breaks_evaluate session expression).bind fun parsed => ih.bind fun rejected =>
      breaks_pure _ _

theorem breaks_evaluateGiven (expressions : List Text) :
    Breaks (ProgramError.fault .refused) (evaluateGiven session expressions) := by
  refine (breaks_ofAction (breaks_evaluateAll session expressions)).bind fun rejected => ?_
  by_cases hrejected : 0 < rejected
  · rw [if_pos hrejected]
    exact (ignores_throw _).breaks _
  · rw [if_neg hrejected]
    exact breaks_ofAction ((ignores_note _).breaks _)

theorem Ready.breaks_task (ready : Ready) (arguments : Arguments) (input : List UInt8) :
    Breaks (ProgramError.fault .refused) (ready.task arguments input) := by
  unfold Ready.task
  split
  · exact (breaks_ofAction (breaks_runSession ready.session ready.settings input)).bind fun _ =>
      breaks_pure _ ()
  · exact breaks_evaluateGiven ready.session arguments.expressions

end Tasks

/-! ## §2. Runs -/

/-- What the output takes is of no consequence until a console is ready. -/
theorem World.prepare_room (world : World) (arguments : Arguments) (room : Option Nat) :
    { world with room }.prepare arguments =
      (world.prepare arguments).map fun ready =>
        { ready with console := { ready.console with sink := .limited room } } := by
  unfold World.prepare
  have hload : { world with room }.loadSettings arguments.config =
      world.loadSettings arguments.config := rfl
  rw [hload]
  rcases world.loadSettings arguments.config with ⟨_ | settings, events⟩
  · rfl
  · simp only
    rcases (Language.ruleGrammar (settings.withRule arguments.rule).rule).start with _ | started
    · rfl
    · rfl

/-- Without a console there is nothing that could write. -/
theorem World.run_of_refused {world : World} {arguments : Arguments} {error : ProgramError}
    {events : List Log.Event} (h : world.prepare arguments = .error (error, events))
    (room : Option Nat) :
    { world with room }.run arguments = ⟨some error, .limited room, events.reverse⟩ := by
  unfold World.run
  rw [World.prepare_room, h]
  rfl

/-- With a console the program runs its task, whatever its output takes. -/
theorem World.run_of_ready {world : World} {arguments : Arguments} {ready : Ready}
    (h : world.prepare arguments = .ok ready) (room : Option Nat) :
    { world with room }.run arguments =
      .ofTask ((ready.task arguments world.input).run.run
        { ready.console with sink := .limited room }) := by
  unfold World.run
  rw [World.prepare_room, h]
  rfl

/-- The completion of a task that broke off, or did not have to. -/
theorem completion_of_ends {limit : Nat} {ending ending' : Except ProgramError Unit × Console}
    (h : Ends (ProgramError.fault .refused) limit ending ending') :
    let whole := Completion.ofTask ending
    let cut := Completion.ofTask ending'
    cut.sink.bytes = whole.sink.bytes.take limit ∧
      (whole.sink.bytes.length ≤ limit → cut.error = whole.error ∧ cut.events = whole.events) ∧
      (limit < whole.sink.bytes.length → cut.error = some (.fault .refused)) := by
  obtain ⟨result, after⟩ := ending
  obtain ⟨result', after'⟩ := ending'
  intro whole cut
  rcases h with ⟨hsame, hafter⟩ | ⟨hrefused, hafter⟩
  · obtain rfl : result' = result := hsame
    obtain ⟨room, _, hlimit⟩ := hafter.room
    have hfits : after.sink.bytes.length ≤ limit := Nat.le.intro hlimit
    refine ⟨?_, fun _ => ⟨rfl, congrArg List.reverse hafter.events⟩, fun hbeyond => ?_⟩
    · show after'.sink.bytes = after.sink.bytes.take limit
      rw [List.take_of_length_le hfits, hafter.bytes]
    · exact absurd hfits (Nat.not_le_of_lt hbeyond)
  · obtain rfl : result' = .error (.fault .refused) := hrefused
    exact ⟨hafter.bytes, fun hfits => absurd hafter.beyond (Nat.not_lt_of_le hfits), fun _ => rfl⟩

/-- **An output that gives up loses nothing else.** Whatever the settings, the arguments and the
input are, and whatever the limit: an output that takes so many octets in all is given the first
ones of the octets that the program writes without a limit, up to the limit. If that is all, the
program ends as it does without a limit, with the same events in its log; and otherwise with the
error that its output was refused. -/
theorem World.run_limited (world : World) (arguments : Arguments) (limit : Nat) :
    let whole := { world with room := none }.run arguments
    let cut := { world with room := some limit }.run arguments
    cut.sink.bytes = whole.sink.bytes.take limit ∧
      (whole.sink.bytes.length ≤ limit → cut.error = whole.error ∧ cut.events = whole.events) ∧
      (limit < whole.sink.bytes.length → cut.error = some (.fault .refused)) := by
  intro whole cut
  cases hprepare : world.prepare arguments with
  | error refused =>
    obtain ⟨error, events⟩ := refused
    have hwhole : whole = _ := World.run_of_refused hprepare none
    have hcut : cut = _ := World.run_of_refused hprepare (some limit)
    rw [hwhole, hcut]
    exact ⟨List.take_nil.symm, fun _ => ⟨rfl, rfl⟩,
      fun hbeyond => absurd hbeyond (Nat.not_lt_zero limit)⟩
  | ok ready =>
    have hwhole : whole = _ := World.run_of_ready hprepare none
    have hcut : cut = _ := World.run_of_ready hprepare (some limit)
    -- At first nothing was written, so that there is room for the whole limit.
    have hstep : InStep limit { ready.console with sink := .limited none }
        { ready.console with sink := .limited (some limit) } :=
      ⟨rfl, rfl, rfl, rfl, limit, rfl, Nat.zero_add limit⟩
    rw [hwhole, hcut]
    exact completion_of_ends ((ready.breaks_task arguments world.input).ends limit _ _ hstep)

/-- Two numbers are written in 44 octets. An output that takes 30 is given the first number and the
beginning of what is written of the second one, and refuses the rest; one that takes 44 is given
all. -/
theorem World.run_limited_numbers :
    let world : World := { find? := fun _ => none }
    let arguments : Arguments := { rule := some .expression, expressions := [['1'], ['2']] }
    let short := { world with room := some 30 }.run arguments
    let long := { world with room := some 44 }.run arguments
    (short.sink.bytes = Text.encode "Parsed As:\nInteger(1)\nParsed A".toList ∧
        short.error = some (.fault .refused)) ∧
      long.sink.bytes = Text.encode "Parsed As:\nInteger(1)\nParsed As:\nInteger(2)\n".toList ∧
      long.error = none := by
  intro world arguments short long
  have hwhole : ({ world with room := none }.run arguments).sink.bytes =
      Text.encode "Parsed As:\nInteger(1)\nParsed As:\nInteger(2)\n".toList := by
    decide +kernel
  have herror : ({ world with room := none }.run arguments).error = none := by
    decide +kernel
  obtain ⟨hshort, _, hrefused⟩ := World.run_limited world arguments 30
  obtain ⟨hlong, hfits, _⟩ := World.run_limited world arguments 44
  rw [hwhole] at hshort hrefused hlong hfits
  rw [herror] at hfits
  refine ⟨⟨hshort.trans ?_, hrefused ?_⟩, hlong.trans ?_, (hfits ?_).1⟩
  · decide
  · decide
  · decide
  · decide

end Backtrack.Program
