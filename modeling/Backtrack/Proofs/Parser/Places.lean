import Backtrack.Proofs.Parser.Depth
import Backtrack.Proofs.Parser.Subtask

/-! # Places on the way of a run

    A parser is started at an index, and what it runs on its way it runs at
    indices of its own. If the first of them is a place of the input, then so
    are all others, and none of them lies in front of it. If it is none, then
    there are no others: all that is run is run at this index and fails
    there, so that nothing is ever handed to a conversion.

    * `Task.Inside.of_asks`, `Task.Outside.of_asks`: one step on the way.
    * `Parser.Runs.inside`: what is run from a place of the input.
    * `Evaluates.misses_of_outside`, `Parser.not_converts_of_not_isBoundary`:
      what is run from anywhere else. -/

namespace Backtrack

variable {ρ α β : Type}

/-! ## §1. What a run runs -/

/-- Running the parser at the index runs the other parser at the place, were it on a branch that
fails or where only looking ahead. It runs nothing else, as a task asks for all that it needs
(`Evaluates.exists_of_forall_asks`). -/
def Parser.Runs (rules : ρ → Option (Parser ρ α)) (input : Text) (parser : Parser ρ α) (index : Nat)
    (other : Parser ρ α) (place : Nat) : Prop :=
  Relation.ReflTransGen (Task.Asks rules input) (.parse parser index) (.parse other place)

/-- Running the parser at the index applies the function of a conversion: a conversion is run whose
body succeeds. -/
inductive Parser.Converts (rules : ρ → Option (Parser ρ α)) (input : Text) (parser : Parser ρ α)
    (index : Nat) : Prop where
  | mapped {body : Parser ρ α} {convert : Value α → Value α} {place : Nat}
      {success : Success (Value α)} :
      parser.Runs rules input index (.mapped body convert) place →
      Evaluates rules input ⊤ (.parse body place) (.success success) →
      Parser.Converts rules input parser index
  | converted {body : Parser ρ α} {convert : Value α → Except String (Value α)} {place : Nat}
      {success : Success (Value α)} :
      parser.Runs rules input index (.converted body convert) place →
      Evaluates rules input ⊤ (.parse body place) (.success success) →
      Parser.Converts rules input parser index

section Places

variable {rules : ρ → Option (Parser ρ α)} {input : Text} {depth : ℕ∞} {task task' : Task ρ α}
  {parser other : Parser ρ α} {index place : Nat} {outcome : Outcome (Value α)}

/-! ## §2. From a place of the input -/

/-- The task has started at a place of the input, and has come to a place at or behind that. -/
structure Task.Inside (input : Text) (task : Task ρ α) : Prop where
  start : input.isBoundary task.start = true
  place : input.isBoundary task.place = true
  le : task.start ≤ task.place

theorem Task.Inside.of_eq (h : task.Inside input) (hstart : task'.start = task.start)
    (hplace : task'.place = task.place) : task'.Inside input := by
  refine ⟨?_, ?_, ?_⟩
  · rw [hstart]
    exact h.start
  · rw [hplace]
    exact h.place
  · rw [hstart, hplace]
    exact h.le

theorem Task.inside_parse (h : input.isBoundary index = true) :
    (Task.parse parser index).Inside input :=
  ⟨h, h, Nat.le_refl index⟩

/-- What is asked for inside is inside, and starts no earlier. -/
theorem Task.Inside.of_asks (h : task.Inside input) (hasks : Task.Asks rules input task task') :
    task'.Inside input ∧ task.start ≤ task'.start := by
  -- The place moves on where something has matched, and then to where the match stops.
  cases hasks with
  | next hfront => exact ⟨Task.inside_parse hfront.isBoundary_stop, hfront.start_le_stop⟩
  | separator _ _ => exact ⟨Task.inside_parse h.place, h.le⟩
  | body => exact ⟨Task.inside_parse h.place, h.le⟩
  | behind _ _ hseparator =>
    exact ⟨⟨h.start, hseparator.isBoundary_stop, h.le.trans hseparator.start_le_stop⟩,
      Nat.le_refl _⟩
  | again hbody _ =>
    exact ⟨⟨h.start, hbody.isBoundary_stop, h.le.trans hbody.start_le_stop⟩, Nat.le_refl _⟩
  | first | choice | alternative | others | repetition | separated | unseparated | option | negation
  | anchored | mapped | converted | deferred =>
    exact ⟨h.of_eq rfl rfl, Nat.le_refl _⟩

/-- All that is asked for on the way is inside. -/
theorem Task.Inside.of_way (h : task.Inside input)
    (hway : Relation.ReflTransGen (Task.Asks rules input) task task') :
    task'.Inside input ∧ task.start ≤ task'.start := by
  induction hway with
  | refl => exact ⟨h, Nat.le_refl _⟩
  | tail _ hasks ih =>
    obtain ⟨hinside, hle⟩ := ih
    obtain ⟨hinside', hle'⟩ := hinside.of_asks hasks
    exact ⟨hinside', hle.trans hle'⟩

/-- **From a place of the input, a run stays on its places**, and goes to no earlier one. -/
theorem Parser.Runs.inside (h : parser.Runs rules input index other place)
    (hboundary : input.isBoundary index = true) :
    input.isBoundary place = true ∧ index ≤ place := by
  obtain ⟨hinside, hle⟩ := (Task.inside_parse hboundary).of_way h
  exact ⟨hinside.start, hle⟩

/-! ## §3. From anywhere else -/

/-- The task has started where the input has no place, and is still there. -/
structure Task.Outside (input : Text) (task : Task ρ α) : Prop where
  place : input.isBoundary task.place = false
  start : task.start = task.place

theorem Task.Outside.isBoundary_start (h : task.Outside input) :
    input.isBoundary task.start = false := by
  rw [h.start]
  exact h.place

/-- Nothing matches outside. -/
theorem Evaluates.false_of_outside {success : Success (Value α)}
    (h : input.isBoundary index = false)
    (hparser : Evaluates rules input depth (.parse parser index) (.success success)) : False := by
  have hboundary : input.isBoundary index = true := hparser.isBoundary_start
  rw [h] at hboundary
  cases hboundary

/-- What is asked for outside is asked for at the same index. -/
theorem Task.Outside.of_asks (h : task.Outside input) (hasks : Task.Asks rules input task task') :
    task'.Outside input ∧ task'.place = task.place := by
  cases hasks with
  | next hfront => exact (hfront.false_of_outside h.place).elim
  | behind _ _ hseparator => exact (hseparator.false_of_outside h.place).elim
  | again hbody _ => exact (hbody.false_of_outside h.place).elim
  | separator _ _ => exact ⟨⟨h.place, rfl⟩, rfl⟩
  | body => exact ⟨⟨h.place, rfl⟩, rfl⟩
  | first | choice | alternative | others | repetition | separated | unseparated | option | negation
  | anchored | mapped | converted | deferred =>
    exact ⟨⟨h.place, h.start⟩, rfl⟩

theorem Task.Outside.of_way (h : task.Outside input)
    (hway : Relation.ReflTransGen (Task.Asks rules input) task task') :
    task'.Outside input ∧ task'.place = task.place := by
  induction hway with
  | refl => exact ⟨h, rfl⟩
  | tail _ hasks ih =>
    obtain ⟨houtside, hplace⟩ := ih
    obtain ⟨houtside', hplace'⟩ := houtside.of_asks hasks
    exact ⟨houtside', hplace'.trans hplace⟩

/-- **From an index that is no place of the input, no function of a conversion is applied.** -/
theorem Parser.not_converts_of_not_isBoundary (h : input.isBoundary index = false) :
    ¬ parser.Converts rules input index := by
  have houtside : (Task.parse parser index).Outside input := ⟨h, rfl⟩
  rintro (⟨hruns, hbody⟩ | ⟨hruns, hbody⟩)
  · exact hbody.false_of_outside (houtside.of_way hruns).1.place
  · exact hbody.false_of_outside (houtside.of_way hruns).1.place

/-- The first failure to reach the end of the input that the task has met so far. -/
def Task.termination : Task ρ α → Option Failure
  | choose _ termination _ _ => termination
  | _ => none

/-- The outcome says that nothing matches at the index. -/
def Outcome.Misses (index : Nat) : Outcome β → Prop
  | .success _ => False
  | .failure f => f.kind = .parsing ∧ f.index = index

theorem Outcome.Misses.exists_failure {outcome : Outcome β} (h : outcome.Misses index) :
    ∃ failure, outcome = .failure failure ∧ failure.kind = .parsing ∧ failure.index = index := by
  cases outcome with
  | success success => exact h.elim
  | failure failure => exact ⟨failure, rfl, h⟩

section Misses

variable (h : input.isBoundary index = false)
include h

theorem dropBytes?_of_outside : input.dropBytes? index = none := by
  unfold Text.isBoundary at h
  exact Option.not_isSome_iff_eq_none.1 (by simp [h])

/-- No slice of the input starts outside. -/
theorem slice?_of_outside (stop : Nat) : input.slice? index stop = none := by
  cases hslice : input.slice? index stop with
  | none => rfl
  | some text =>
    have hboundary : input.isBoundary index = true := Text.isBoundary_start_of_slice? hslice
    rw [h] at hboundary
    cases hboundary

theorem matchLiteral_misses (text : Text) :
    (matchLiteral input text index : Outcome (Value α)).Misses index := by
  have hnowhere := dropBytes?_of_outside h
  unfold matchLiteral
  rw [hnowhere]
  exact ⟨rfl, rfl⟩

theorem matchPattern_misses (pattern : Pattern) :
    (matchPattern input pattern index : Outcome (Value α)).Misses index := by
  have hnone : pattern.findAt input index = none := by
    cases hfound : pattern.findAt input index with
    | none => rfl
    | some text =>
      obtain ⟨rest, hrest⟩ := Pattern.dropBytes?_of_findAt hfound
      rw [dropBytes?_of_outside h] at hrest
      cases hrest
  unfold matchPattern
  rw [hnone]
  exact ⟨rfl, rfl⟩

/-- What a repetition comes to that starts outside, whatever its rounds were. -/
theorem endLoop_misses (body : Parser ρ α) (bounds : Bounds) (values : List (Value α)) :
    (endLoop input body bounds index place values).Misses index := by
  have hnone := slice?_of_outside h place
  simp only [endLoop, finishRounds, hnone]
  split
  · exact ⟨rfl, rfl⟩
  · exact ⟨rfl, rfl⟩

theorem orNothing_misses (failure : Failure) :
    (orNothing input index (.failure failure) : Outcome (Value α)).Misses index := by
  unfold orNothing
  rw [h]
  exact ⟨rfl, rfl⟩

theorem inverted_misses (body : Parser ρ α) (failure : Failure) :
    (inverted input body index (.failure failure)).Misses index := by
  unfold inverted
  rw [h]
  exact ⟨rfl, rfl⟩

end Misses

/-- **Outside, everything fails where it is**, and says that nothing matched. -/
theorem Evaluates.misses_of_outside (h : Evaluates rules input depth task outcome)
    (houtside : task.Outside input) (hnone : task.termination = none) :
    outcome.Misses task.start := by
  -- What goes on behind the index asks for a match in front of it, and there is none.
  induction h with
  | literal text index => exact matchLiteral_misses houtside.place text
  | pattern expression index => exact matchPattern_misses houtside.place expression
  | sequenceFails _ ih => exact ih ⟨houtside.place, rfl⟩ rfl
  | sequence hfirst _ _ _ => exact (hfirst.false_of_outside houtside.place).elim
  | choice _ ih => exact ih ⟨houtside.place, rfl⟩ rfl
  | exhausted all termination index =>
    have hlist : termination = none := hnone
    rw [hlist]
    exact ⟨rfl, rfl⟩
  | chosen hparser _ => exact (hparser.false_of_outside houtside.place).elim
  | @passedOver _ all rest termination parser index failure outcome _ _ ih₁ ih₂ =>
    -- A failure to match is not promoted, so the choice still has nothing to report.
    have hlist : termination = none := hnone
    have hfirst : failure.kind = .parsing ∧ failure.index = index := ih₁ ⟨houtside.place, rfl⟩ rfl
    refine ih₂ ⟨houtside.place, rfl⟩ ?_
    have hkind : failure.kind ≠ .termination := by
      rw [hfirst.1]
      decide
    rw [hlist]
    exact firstTermination_of_ne hkind
  | repetition _ ih => exact ih ⟨houtside.place, rfl⟩ rfl
  | separated _ ih => exact ih ⟨houtside.place, rfl⟩ rfl
  | unseparated _ _ _ ih => exact ih ⟨houtside.place, houtside.start⟩ rfl
  | full _ => exact endLoop_misses houtside.isBoundary_start _ _ _
  | separatorFails _ _ _ _ => exact endLoop_misses houtside.isBoundary_start _ _ _
  | separatorMatches _ _ hseparator _ _ _ =>
    exact (hseparator.false_of_outside houtside.place).elim
  | roundFails _ _ => exact endLoop_misses houtside.isBoundary_start _ _ _
  | roundStays hbody _ _ => exact (hbody.false_of_outside houtside.place).elim
  | roundMoves hbody _ _ _ _ => exact (hbody.false_of_outside houtside.place).elim
  | option _ ih =>
    obtain ⟨failure, rfl, _⟩ := (ih ⟨houtside.place, rfl⟩ rfl).exists_failure
    exact orNothing_misses houtside.place failure
  | negation _ ih =>
    obtain ⟨failure, rfl, _⟩ := (ih ⟨houtside.place, rfl⟩ rfl).exists_failure
    exact inverted_misses houtside.place _ failure
  | anchored _ ih =>
    obtain ⟨failure, rfl, hfailure⟩ := (ih ⟨houtside.place, rfl⟩ rfl).exists_failure
    exact hfailure
  | mapped _ ih =>
    obtain ⟨failure, rfl, hfailure⟩ := (ih ⟨houtside.place, rfl⟩ rfl).exists_failure
    exact hfailure
  | converted _ ih =>
    obtain ⟨failure, rfl, hfailure⟩ := (ih ⟨houtside.place, rfl⟩ rfl).exists_failure
    exact hfailure
  | deferred _ _ _ ih => exact ih ⟨houtside.place, rfl⟩ rfl

end Places

end Backtrack
