import Backtrack.Console.Loop
import Backtrack.Proofs.Session.Life

/-! # Outputs that give up

    An output may take so many octets and then no more. A console that writes
    to it is compared with one that writes the same to an output without end.
    The two go in step as long as everything fits. The first write that does
    not fit ends the one with a fault, when it has written what did fit, while
    the other goes on and only adds to what it has written.

    This is a property of actions that two actions one behind the other have
    if each of them has it. An action has it that writes a text, and one that
    does not look at the output at all.

    * `Breaks`: the property.
    * `Breaks.bind`: actions one behind the other.
    * `breaks_runSession`: whole sessions. -/

namespace Backtrack

open Backtrack.Language (RuleName)

namespace Console

variable {ε β γ : Type} {limit : Nat} {whole cut : Console}

/-! ## §1. Two consoles -/

/-- The consoles are the same, and the output of the second takes so many octets in all, of which
none was refused so far. -/
structure InStep (limit : Nat) (whole cut : Console) : Prop where
  store : cut.store = whole.store
  events : cut.events = whole.events
  endless : whole.sink.room = none
  bytes : cut.sink.bytes = whole.sink.bytes
  room : ∃ room, cut.sink.room = some room ∧ whole.sink.bytes.length + room = limit

/-- The output of the second console has taken as much as it takes, and that of the first more. -/
structure CutOff (limit : Nat) (whole cut : Console) : Prop where
  endless : whole.sink.room = none
  beyond : limit < whole.sink.bytes.length
  bytes : cut.sink.bytes = whole.sink.bytes.take limit

/-- How two runs of an action end: in step and with the same result, or the second one is refused
and cut off. -/
def Ends (refusal : ε) (limit : Nat) (ending ending' : Except ε β × Console) : Prop :=
  ending'.1 = ending.1 ∧ InStep limit ending.2 ending'.2 ∨
    ending'.1 = .error refusal ∧ CutOff limit ending.2 ending'.2

/-- Without a limit the action only adds to what was written. With a limit it does the same up to
the limit, and breaks off there. -/
structure Breaks (refusal : ε) (action : ExceptT ε (StateM Console) β) : Prop where
  adds : ∀ whole : Console, whole.sink.room = none →
    (action.run.run whole).2.sink.room = none ∧
      whole.sink.bytes <+: (action.run.run whole).2.sink.bytes
  ends : ∀ limit whole cut, InStep limit whole cut →
    Ends refusal limit (action.run.run whole) (action.run.run cut)

/-- What is cut off stays so, whatever is added to what was written. -/
theorem CutOff.add (h : CutOff limit whole cut) {after : Console}
    (hendless : after.sink.room = none) (hadds : whole.sink.bytes <+: after.sink.bytes) :
    CutOff limit after cut := by
  obtain ⟨more, hmore⟩ := hadds
  have hbeyond := h.beyond
  refine ⟨hendless, ?_, ?_⟩
  · rw [← hmore, List.length_append]
    omega
  · rw [h.bytes, ← hmore, List.take_append_of_le_length (Nat.le_of_lt hbeyond)]

/-! ## §2. Actions one behind the other -/

theorem breaks_pure (refusal : ε) (value : β) :
    Breaks refusal (pure value : ExceptT ε (StateM Console) β) where
  adds _ hendless := ⟨hendless, List.prefix_refl _⟩
  ends _ _ _ h := .inl ⟨rfl, h⟩

theorem Breaks.bind {refusal : ε} {action : ExceptT ε (StateM Console) β}
    {next : β → ExceptT ε (StateM Console) γ} (h : Breaks refusal action)
    (hnext : ∀ value, Breaks refusal (next value)) : Breaks refusal (action >>= next) where
  adds whole hendless := by
    obtain ⟨hmiddle, hfirst⟩ := h.adds whole hendless
    rw [Run.run_bind]
    rcases hrun : action.run.run whole with ⟨error | value, middle⟩
    · rw [hrun] at hmiddle hfirst
      exact ⟨hmiddle, hfirst⟩
    · rw [hrun] at hmiddle hfirst
      obtain ⟨hafter, hsecond⟩ := (hnext value).adds middle hmiddle
      exact ⟨hafter, hfirst.trans hsecond⟩
  ends limit whole cut hstep := by
    have hfirst := h.ends limit whole cut hstep
    rw [Run.run_bind, Run.run_bind]
    rcases hwhole : action.run.run whole with ⟨result, middle⟩
    rcases hcut : action.run.run cut with ⟨result', middle'⟩
    rw [hwhole, hcut] at hfirst
    rcases hfirst with ⟨hsame, hmiddle⟩ | ⟨hrefused, hmiddle⟩
    · obtain rfl : result' = result := hsame
      cases result' with
      | error error => exact .inl ⟨rfl, hmiddle⟩
      | ok value => exact (hnext value).ends limit middle middle' hmiddle
    · -- Nothing comes behind a refusal, and what the other console goes on with is beyond it.
      obtain rfl : result' = .error refusal := hrefused
      cases result with
      | error error => exact .inr ⟨rfl, hmiddle⟩
      | ok value =>
        obtain ⟨hafter, hadds⟩ := (hnext value).adds middle hmiddle.endless
        exact .inr ⟨rfl, hmiddle.add hafter hadds⟩

/-! ## §3. Single actions -/

/-- The action comes to the same with any output, and leaves it as it is. -/
def Ignores (action : ExceptT ε (StateM Console) β) : Prop :=
  ∀ (console : Console) (sink : Sink), action.run.run { console with sink } =
    ((action.run.run console).1, { (action.run.run console).2 with sink })

theorem Ignores.sink_eq {action : ExceptT ε (StateM Console) β} (h : Ignores action)
    (console : Console) : (action.run.run console).2.sink = console.sink :=
  congrArg (fun ending => ending.2.sink) (h console console.sink)

/-- An action that does not look at the output writes nothing that could be refused. -/
theorem Ignores.breaks {action : ExceptT ε (StateM Console) β} (h : Ignores action)
    (refusal : ε) : Breaks refusal action where
  adds whole hendless := by
    rw [h.sink_eq]
    exact ⟨hendless, List.prefix_refl _⟩
  ends limit whole cut hstep := by
    have hcut : cut = { whole with sink := cut.sink } := by
      obtain ⟨store, sink, events⟩ := cut
      obtain rfl := hstep.store
      obtain rfl := hstep.events
      rfl
    have hsink := h.sink_eq whole
    rw [hcut, h whole cut.sink]
    refine .inl ⟨rfl, ?_⟩
    exact ⟨rfl, rfl, hsink ▸ hstep.endless, hsink ▸ hstep.bytes, hsink ▸ hstep.room⟩

theorem ignores_throw (error : ε) : Ignores (throw error : ExceptT ε (StateM Console) β) :=
  fun _ _ => rfl

theorem ignores_note (event : Log.Event) : Ignores (note event) :=
  fun _ _ => rfl

theorem run_get (console : Console) :
    (get : Action Console).run.run console = (.ok console, console) := rfl

theorem ignores_parse (session : Session RuleName Expression) (line : Text) :
    Ignores (parse session line) := by
  intro console sink
  rcases hrun : session.run console.store line 0 with ⟨result, store, resolved⟩
  unfold parse
  simp only [Run.run_bind, run_get, hrun]
  cases result with
  | error stop => rfl
  | ok outcome => rfl

/-! ## §4. Writes -/

/-- An output without a limit takes all of a write. -/
theorem write_endless {sink : Sink} (h : sink.room = none) (octets : List UInt8) :
    (sink.write octets).2 = true ∧ (sink.write octets).1.room = none ∧
      (sink.write octets).1.bytes = sink.bytes ++ octets := by
  unfold Sink.write
  rw [h]
  simp [Sink.bytes]

/-- An output with a limit takes what fits of a write. -/
theorem write_limited {sink : Sink} {room : Nat} (h : sink.room = some room)
    (octets : List UInt8) :
    (sink.write octets).2 = decide (octets.length ≤ room) ∧
      (sink.write octets).1.room = some (room - octets.length) ∧
      (sink.write octets).1.bytes = sink.bytes ++ octets.take room := by
  unfold Sink.write
  rw [h]
  simp [Sink.bytes]

theorem run_write (text : String) (console : Console) :
    (write text).run.run console =
      (if (console.sink.write (Text.encode text.toList)).2 then .ok () else .error .refused,
        { console with sink := (console.sink.write (Text.encode text.toList)).1 }) := by
  unfold write
  rw [Run.run_bind, run_get]
  cases hwhole : (console.sink.write (Text.encode text.toList)).2 with
  | true => simp only [hwhole]; rfl
  | false => simp only [hwhole]; rfl

/-- A text is written as far as it fits. -/
theorem breaks_write (text : String) : Breaks Fault.refused (write text) where
  adds whole hendless := by
    obtain ⟨_, hroom, hbytes⟩ := write_endless hendless (Text.encode text.toList)
    rw [run_write]
    exact ⟨hroom, _, hbytes.symm⟩
  ends limit whole cut hstep := by
    obtain ⟨room, hroom, hlimit⟩ := hstep.room
    rw [run_write, run_write]
    generalize Text.encode text.toList = octets
    obtain ⟨htaken, hendless, hwhole⟩ := write_endless hstep.endless octets
    obtain ⟨hfit, hleft, hcut⟩ := write_limited hroom octets
    rw [hstep.bytes] at hcut
    by_cases hfits : octets.length ≤ room
    · -- Everything fits, and there is as much less room afterwards.
      left
      rw [List.take_of_length_le hfits] at hcut
      refine ⟨by simp [htaken, hfit, hfits], hstep.store, hstep.events, hendless,
        hcut.trans hwhole.symm, _, hleft, ?_⟩
      rw [hwhole, List.length_append]
      omega
    · right
      refine ⟨by simp [hfit, hfits], hendless, ?_, ?_⟩
      · rw [hwhole, List.length_append]
        omega
      · rw [hcut, hwhole, ← hlimit, List.take_length_add_append]

/-! ## §5. Sessions -/

section Sessions

variable (session : Session RuleName Expression) (settings : Settings)

theorem breaks_evaluate (line : Text) : Breaks Fault.refused (evaluate session line) := by
  unfold evaluate
  refine ((ignores_parse session line).breaks _).bind fun outcome => ?_
  cases outcome with
  | success success =>
    refine (breaks_write _).bind fun _ => (breaks_write _).bind fun _ => ?_
    exact breaks_pure _ true
  | failure failure =>
    refine ((ignores_note _).breaks _).bind fun _ => (breaks_write _).bind fun _ => ?_
    exact breaks_pure _ false

theorem breaks_answer (summary : Summary) (octets : List UInt8) :
    Breaks Fault.refused (answer session settings summary octets) := by
  unfold answer
  split
  · exact (ignores_throw _).breaks _
  · simp only
    split
    · exact breaks_pure _ none
    · split
      · exact breaks_pure _ (some summary)
      · exact (breaks_evaluate session _).bind fun parsed => breaks_pure _ _

/-- The prompt, the answer and the end of the input are written up to the limit, line by line. -/
theorem breaks_readLines (summary : Summary) (lines : List (List UInt8)) :
    Breaks Fault.refused (readLines session settings summary lines) := by
  induction lines generalizing summary with
  | nil =>
    exact (breaks_write _).bind fun _ => (breaks_write _).bind fun _ => breaks_pure _ summary
  | cons octets rest ih =>
    refine (breaks_write _).bind fun _ => ?_
    refine (breaks_answer session settings summary octets).bind fun answered => ?_
    cases answered with
    | none => exact breaks_pure _ summary
    | some summary => exact ih summary

theorem breaks_runSession (input : List UInt8) :
    Breaks Fault.refused (runSession session settings input) := by
  refine (breaks_readLines session settings {} (inputLines input)).bind fun summary => ?_
  exact ((ignores_note _).breaks _).bind fun _ => breaks_pure _ summary

end Sessions

end Console

end Backtrack
