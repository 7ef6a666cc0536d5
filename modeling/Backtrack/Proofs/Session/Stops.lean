import Backtrack.Proofs.Session.History
import Backtrack.Proofs.Session.Located

/-! # Runs that stop

    A run stops without an outcome where it meets a cell whose rule cannot be
    built, in the middle of whatever it was doing. What is left behind is as
    good as before: the cells filled on the way are filled, the one at which
    the run stopped is empty, and a run of any kind answers what it answers on
    a fresh copy.

    * `Session.stalls_parseLocated`: a run that has stopped stops there again.
    * `Grammar.usable_after_stop`: what a stop leaves behind. -/

namespace Backtrack

variable {κ α β γ : Type}

/-! ## §1. Steps that stop again -/

/-- The step remembers, and where it stops at a cell whose rule cannot be built, that rule is the
last one that it called for and the only one for which nothing was filled. On every later store in
which the cell is still empty the step stops there again, and calls for that rule alone. -/
structure LocatedRun.Stalls (step : LocatedRun κ α β) : Prop where
  remembers : Run.Remembers step.erase
  grows : ∀ (store after : Store κ α) cell stop, store.Once →
    step.run.run store = (.error (cell, stop), after) → stop ≠ .endless →
    ∃ filled called, store.Grows after filled (cell.rule :: called) ∧
      filled.length = called.length
  again : ∀ (store after later : Store κ α) cell stop, store.Once →
    step.run.run store = (.error (cell, stop), after) → stop ≠ .endless →
    after.Keeps later → later.find? cell = none →
    step.run.run later = (.error (cell, stop), later.note cell.rule)

namespace LocatedRun

theorem stalls_pure (value : β) : Stalls (pure value : LocatedRun κ α β) where
  remembers := Run.remembers_pure value
  grows _ _ _ _ _ h := by cases h
  again _ _ _ _ _ _ h := by cases h

theorem stalls_endless (cell : Cell κ) :
    Stalls (throw (cell, .endless) : LocatedRun κ α β) where
  remembers := Run.remembers_throw .endless
  grows _ _ _ _ _ h hne := by
    cases h
    exact absurd rfl hne
  again _ _ _ _ _ _ h hne := by
    cases h
    exact absurd rfl hne

theorem Stalls.bind {step : LocatedRun κ α β} {next : β → LocatedRun κ α γ} (hstep : Stalls step)
    (hnext : ∀ value, Stalls (next value)) : Stalls (step >>= next) where
  remembers := by
    rw [erase_bind]
    exact hstep.remembers.bind fun value => (hnext value).remembers
  grows store after cell stop honce h hne := by
    rw [Run.run_bind] at h
    rcases hrun : step.run.run store with ⟨⟨other, reason⟩ | value, middle⟩
    · rw [hrun] at h
      cases h
      exact hstep.grows store _ _ _ honce hrun hne
    · -- The first step filled a cell for each rule that it called for.
      obtain ⟨filled, called, hgrows, _, heq⟩ := hstep.remembers.grows store honce
      rw [run_erase_eq_ok_iff.2 hrun] at hgrows heq
      rw [hrun] at h
      obtain ⟨filled', called', hgrows', heq'⟩ :=
        (hnext value).grows middle after cell stop hgrows.once h hne
      refine ⟨filled' ++ filled, called' ++ called, hgrows.trans hgrows', ?_⟩
      simp only [List.length_append, heq value rfl, heq']
  again store after later cell stop honce h hne hkeeps hempty := by
    rw [Run.run_bind] at h ⊢
    rcases hrun : step.run.run store with ⟨⟨other, reason⟩ | value, middle⟩
    · rw [hrun] at h
      cases h
      rw [hstep.again store _ later _ _ honce hrun hne hkeeps hempty]
    · rw [hrun] at h
      obtain ⟨filled, called, hgrows, -⟩ := hstep.remembers.grows store honce
      rw [run_erase_eq_ok_iff.2 hrun] at hgrows
      obtain ⟨filled', called', hgrows', -⟩ :=
        (hnext value).grows middle after cell stop hgrows.once h hne
      -- The first step has its answer again, and leaves the later store as it is.
      have hfirst : step.run.run later = (.ok value, later) := by
        refine run_erase_eq_ok_iff.1 (hstep.remembers.again store later value honce ?_ ?_)
        · rw [run_erase_eq_ok_iff.2 hrun]
        · rw [run_erase_eq_ok_iff.2 hrun]
          exact hgrows'.keeps.trans hkeeps
      rw [hfirst]
      exact (hnext value).again middle after later cell stop hgrows.once h hne hkeeps hempty

theorem composes_stalls : Composes (fun β (step : LocatedRun κ α β) => Stalls step) where
  pure := stalls_pure
  bind hstep hnext := hstep.bind hnext

end LocatedRun

section Stalls

variable [DecidableEq κ]

/-- A cell whose rule cannot be built is left empty, and is met as an empty one again. -/
theorem Session.stalls_resolveLocated (session : Session κ α) (cell : Cell κ) :
    (session.resolveLocated cell).Stalls where
  remembers := by
    rw [Session.erase_resolveLocated]
    exact session.remembers_resolve cell
  grows store after other stop honce h _ := by
    obtain ⟨rfl, hstop⟩ := Session.resolveLocated_eq_error_iff.1 h
    obtain ⟨_, _, rfl⟩ := Session.resolve_eq_error_iff.1 hstop
    exact ⟨[], [], ⟨rfl, rfl, honce⟩, rfl⟩
  again store after later other stop honce h _ _ hempty := by
    obtain ⟨rfl, hstop⟩ := Session.resolveLocated_eq_error_iff.1 h
    obtain ⟨_, hblueprint, _⟩ := Session.resolve_eq_error_iff.1 hstop
    exact Session.resolveLocated_eq_error_iff.2
      ⟨rfl, Session.resolve_eq_error_iff.2 ⟨hempty, hblueprint, rfl⟩⟩

theorem Session.stalls_callLocated (session : Session κ α) (input : Text) (depth : Nat)
    (cell : Cell κ) (index : Nat) : (session.callLocated input depth cell index).Stalls := by
  induction depth generalizing cell index with
  | zero => exact LocatedRun.stalls_endless cell
  | succ depth ih =>
    exact (session.stalls_resolveLocated cell).bind fun parser =>
      LocatedRun.composes_stalls.parseWith ih parser index

/-- Every located run stalls where it stops. -/
theorem Session.stalls_parseLocated (session : Session κ α) (input : Text) (index : Nat) :
    (session.parseLocated input index).Stalls :=
  LocatedRun.composes_stalls.parseWith (session.stalls_callLocated input _) session.root index

end Stalls

/-! ## §2. What a stop leaves behind -/

section Runs

variable [DecidableEq κ] {session : Session κ α} {store : Store κ α} {cell : Cell κ}

/-- Runs keep cells live. -/
theorem Session.live_after (honce : store.Once) (hlive : session.Live store cell)
    (runs : List (Text × Nat)) : session.Live (session.after store runs) cell := by
  induction runs generalizing store with
  | nil => exact hlive
  | cons run rest ih =>
    obtain ⟨filled, hparsers, honce', _⟩ := session.run_grows honce run.1 run.2
    refine ih honce' ?_
    rcases hlive with hroot | hshared | ⟨entry, hmem, hentry⟩
    · exact .inl hroot
    · exact .inr (.inl hshared)
    · refine .inr (.inr ⟨entry, ?_, hentry⟩)
      rw [hparsers]
      exact List.mem_append_right filled hmem

/-- A live cell whose rule cannot be built is empty. -/
theorem Session.Sound.find?_eq_none (h : session.Sound store) (hlive : session.Live store cell)
    {stop : Stop} (hrule : session.blueprint cell.rule = .error stop) :
    store.find? cell = none := by
  cases hfind : store.find? cell with
  | none => rfl
  | some parser =>
    have hsome := h.resolved cell parser hlive hfind
    rw [Session.rule?_eq_toOption, hrule] at hsome
    cases hsome

/-- A run that stops says so, and calls for the rules that it calls for. -/
theorem Session.run_of_located {input : Text} {index : Nat} {stop : Stop} {after : Store κ α}
    (h : (session.parseLocated input index).run.run { store with resolved := [] } =
      (.error (cell, stop), after)) :
    session.stopsAt? store input index = some cell ∧
      session.run store input index = (.error stop, after, after.resolved.reverse) := by
  rw [Session.run_eq_located]
  unfold Session.stopsAt?
  rw [h]
  exact ⟨rfl, rfl⟩

/-- **A grammar is as good after a stop as before.** Behind any runs, whether they ended or stopped,
a run has the result that it has on a fresh copy. Where it stops because a rule cannot be built, it
stops at a cell for that rule, the last rule that it called for; each rule called for before has its
cell filled, and so it stays, and the cell that it stopped at is empty, and so it stays. Run again
after any other runs, it stops for the same reason at the same cell, and calls for that rule alone
and fills nothing. -/
theorem Grammar.usable_after_stop {grammar : Grammar κ α}
    (hstart : grammar.start = .ok (session, store)) (runs : List (Text × Nat)) (input : Text)
    (index : Nat) :
    (session.run (session.after store runs) input index).1 =
        (session.run store input index).1 ∧
      ∀ stop, stop ≠ .endless →
        (session.run (session.after store runs) input index).1 = .error stop →
        ∃ cell filled called after,
          session.stopsAt? (session.after store runs) input index = some cell ∧
          session.run (session.after store runs) input index =
            (.error stop, after, called ++ [cell.rule]) ∧
          after.parsers = filled ++ (session.after store runs).parsers ∧
          filled.length = called.length ∧
          ∀ more, (session.after store runs).Keeps (session.after after more) ∧
            after.Keeps (session.after after more) ∧
            (session.after after more).find? cell = none ∧
            session.stopsAt? (session.after after more) input index = some cell ∧
            session.run (session.after after more) input index =
              (.error stop, { session.after after more with resolved := [cell.rule] },
                [cell.rule]) := by
  have hfresh : grammar.Reaches session store := .start hstart
  have hreach := hfresh.after runs
  refine ⟨?_, fun stop hne hstop => ?_⟩
  · rw [hreach.sound.run_eq_evaluate, hfresh.sound.run_eq_evaluate]
  have honce : Store.Once { session.after store runs with resolved := [] } :=
    session.once_after (Grammar.once_of_start hstart) runs
  obtain ⟨cell, after, hlocated, hlive, hrule⟩ := hreach.sound.exists_cell_of_run hstop hne
  have hstalls := session.stalls_parseLocated input index
  obtain ⟨filled, called, hgrows, hlength⟩ := hstalls.grows _ _ _ _ honce hlocated hne
  obtain ⟨hat, hrun⟩ := Session.run_of_located hlocated
  have hresolved : after.resolved.reverse = called.reverse ++ [cell.rule] := by
    rw [hgrows.resolved, List.append_nil, List.reverse_cons]
  rw [hresolved] at hrun
  refine ⟨cell, filled, called.reverse, after, hat, hrun, hgrows.parsers, ?_, fun more => ?_⟩
  · rw [List.length_reverse, hlength]
  -- The cell is live from now on, and no rule can be built for it.
  have hlater : grammar.Reaches session (session.after after more) := by
    have hnext := (hreach.run input index).after more
    rwa [hrun] at hnext
  have hkeeps := session.keeps_after hgrows.once more
  have hempty := hlater.sound.find?_eq_none (Session.live_after hgrows.once hlive more) hrule
  have hagain := hstalls.again _ _ { session.after after more with resolved := [] } _ _ honce
    hlocated hne hkeeps hempty
  obtain ⟨hat', hrun'⟩ := Session.run_of_located hagain
  exact ⟨hgrows.keeps.trans hkeeps, hkeeps, hempty, hat', hrun'⟩

end Runs

/-- One rule that can be built, and behind it one that asks for three at least and two at most. -/
def impossibleRepetition : Grammar Bool Unit where
  rules := [(true, .literal ['a']), (false, .repetition (.literal ['b']) ⟨3, some 2⟩)]
  root := .sequence (.deferred (.rule true)) (.deferred (.rule false))

/-- The session that it starts with. -/
def impossibleSession : Session Bool Unit where
  rules := impossibleRepetition.rules
  shared := []
  root := .sequence (.deferred ⟨0, true⟩) (.deferred ⟨1, false⟩)

/-- A run that stops behind the first rule, one that ends because that rule does not match, and the
first one again: it meets the same cell, and nothing but this cell is still to be filled. -/
theorem usable_after_stop_twice :
    impossibleRepetition.start = .ok (impossibleSession, ⟨2, [], []⟩) ∧
      Stop.inconsistent 3 2 ≠ .endless ∧
      (impossibleSession.run ⟨2, [], []⟩ ['a', 'b'] 0).1 = .error (.inconsistent 3 2) ∧
      ∃ after, impossibleSession.run ⟨2, [], []⟩ ['a', 'b'] 0 =
          (.error (.inconsistent 3 2), after, [true, false]) ∧
        impossibleSession.stopsAt? ⟨2, [], []⟩ ['a', 'b'] 0 = some ⟨1, false⟩ ∧
        (impossibleSession.run (impossibleSession.after after [(['x'], 0)]) ['a', 'b'] 0).1 =
          .error (.inconsistent 3 2) ∧
        (impossibleSession.run (impossibleSession.after after [(['x'], 0)]) ['a', 'b'] 0).2.2 =
          [false] := by
  have hstart : impossibleRepetition.start = .ok (impossibleSession, ⟨2, [], []⟩) := rfl
  have hstop : (impossibleSession.run ⟨2, [], []⟩ ['a', 'b'] 0).1 = .error (.inconsistent 3 2) :=
    rfl
  obtain ⟨_, hstops⟩ := Grammar.usable_after_stop hstart [] ['a', 'b'] 0
  have hne : Stop.inconsistent 3 2 ≠ .endless := nofun
  obtain ⟨cell, _, called, after, hat, hrun, _, _, hlater⟩ := hstops _ hne hstop
  obtain ⟨_, _, _, _, hagain⟩ := hlater [(['x'], 0)]
  -- The cell and the rules called for are those of the first run.
  have hcell : cell = ⟨1, false⟩ := (Option.some.inj hat).symm
  have hrules : called ++ [cell.rule] = [true, false] :=
    (congrArg (fun result => result.2.2) hrun).symm
  subst hcell
  rw [hrules] at hrun
  exact ⟨hstart, hne, hstop, after, hrun, hat, by rw [hagain], by rw [hagain]⟩

end Backtrack
