import Backtrack.Proofs.Parser.Steps
import Backtrack.Proofs.Session.Outcomes

/-! # Runs one after the other

    A session is run on the store that its earlier runs left behind, so what
    is built in one run is there in the next. A step of a run *remembers* if
    it fills only cells that held nothing, one for every rule that it calls
    for, and if it calls for nothing where the store already holds what it
    filled the first time.

    * `Session.remembers_parseAt`: every run is such a step.
    * `Grammar.history_irrelevant`: what was run before does not show in what
      a run answers, and what was run once is not built again. -/

namespace Backtrack

variable {κ α β γ : Type}

/-! ## §1. Stores that grow -/

/-- No cell has been filled twice. -/
def Store.Once (store : Store κ α) : Prop :=
  (store.parsers.map Prod.fst).Nodup

/-- The later store holds all that the earlier one holds. -/
def Store.Keeps (store later : Store κ α) : Prop :=
  ∀ cell parser, store.find? cell = some parser → later.find? cell = some parser

/-- Between the two stores these cells were filled, none of them a second time, and these rules were
called for, the latest first. -/
structure Store.Grows (store after : Store κ α) (filled : List (Nat × BuiltParser κ α))
    (called : List κ) : Prop where
  parsers : after.parsers = filled ++ store.parsers
  resolved : after.resolved = called ++ store.resolved
  once : after.Once

section Stores

variable {store after later : Store κ α} {filled filled' : List (Nat × BuiltParser κ α)}
  {called called' : List κ}

theorem Store.Keeps.trans (h₁ : store.Keeps after) (h₂ : after.Keeps later) : store.Keeps later :=
  fun cell parser hfind => h₂ cell parser (h₁ cell parser hfind)

/-- Filling other cells keeps what a store holds. -/
theorem Store.keeps_of_append (hparsers : later.parsers = filled ++ store.parsers)
    (honce : later.Once) : store.Keeps later := by
  intro cell parser hfind
  unfold Store.Once at honce
  rw [hparsers, List.map_append, List.nodup_append] at honce
  obtain ⟨-, -, hdisjoint⟩ := honce
  obtain ⟨before, behind, hsplit, _⟩ := List.lookup_eq_some_iff.1 hfind
  have hkey : cell.id ∈ store.parsers.map Prod.fst := by simp [hsplit]
  have hnone : filled.lookup cell.id = none := by
    rw [List.lookup_eq_none_iff]
    intro entry hmem
    have hne : entry.1 ≠ cell.id := hdisjoint _ (List.mem_map_of_mem hmem) _ hkey
    simpa using fun h => hne h.symm
  unfold Store.find? at hfind ⊢
  rw [hparsers, List.lookup_append, hnone, hfind]
  rfl

theorem Store.Once.grows (h : store.Once) : store.Grows store [] [] :=
  ⟨rfl, rfl, h⟩

theorem Store.Grows.trans (h₁ : store.Grows after filled called)
    (h₂ : after.Grows later filled' called') :
    store.Grows later (filled' ++ filled) (called' ++ called) where
  parsers := by rw [h₂.parsers, h₁.parsers, List.append_assoc]
  resolved := by rw [h₂.resolved, h₁.resolved, List.append_assoc]
  once := h₂.once

theorem Store.Grows.keeps (h : store.Grows after filled called) : store.Keeps after :=
  Store.keeps_of_append h.parsers h.once

/-- A grammar starts with nothing built. -/
theorem Grammar.once_of_start {grammar : Grammar κ α} {session : Session κ α}
    (h : grammar.start = .ok (session, store)) : store.Once := by
  obtain ⟨_, _, _, _, hstore⟩ := Grammar.exists_of_start h
  rw [hstore]
  exact List.nodup_nil

end Stores

/-! ## §2. Steps that remember -/

/-- The step fills cells that held nothing, a cell for each rule that it calls for unless it stops
there. Behind a store in which it has an answer it gives the same answer again, and fills nothing
and calls for nothing. -/
structure Run.Remembers (step : Run κ α β) : Prop where
  grows : ∀ store : Store κ α, store.Once → ∃ filled called,
    store.Grows (step.run.run store).2 filled called ∧ filled.length ≤ called.length ∧
      ∀ value, (step.run.run store).1 = .ok value → filled.length = called.length
  again : ∀ (store later : Store κ α) value, store.Once → (step.run.run store).1 = .ok value →
    (step.run.run store).2.Keeps later → step.run.run later = (.ok value, later)

theorem Run.remembers_pure (value : β) : Run.Remembers (pure value : Run κ α β) where
  grows store honce := ⟨[], [], honce.grows, Nat.le_refl _, fun _ _ => rfl⟩
  again store later other _ h _ := by
    cases h
    rfl

theorem Run.remembers_throw (stop : Stop) : Run.Remembers (throw stop : Run κ α β) where
  grows store honce := ⟨[], [], honce.grows, Nat.le_refl _, fun _ _ => rfl⟩
  again store later other _ h _ := by cases h

/-- A step that remembers, and then another one. -/
theorem Run.Remembers.bind {step : Run κ α β} {next : β → Run κ α γ} (hstep : Run.Remembers step)
    (hnext : ∀ value, Run.Remembers (next value)) : Run.Remembers (step >>= next) where
  grows store honce := by
    obtain ⟨filled, called, hgrows, hle, heq⟩ := hstep.grows store honce
    rw [Run.run_bind]
    rcases hrun : step.run.run store with ⟨stop | value, after⟩
    · rw [hrun] at hgrows
      exact ⟨filled, called, hgrows, hle, fun _ h => by cases h⟩
    · rw [hrun] at hgrows heq
      obtain ⟨filled', called', hgrows', hle', heq'⟩ := (hnext value).grows after hgrows.once
      refine ⟨filled' ++ filled, called' ++ called, hgrows.trans hgrows', ?_, fun other h => ?_⟩
      · simp only [List.length_append]
        omega
      · simp only [List.length_append, heq value rfl, heq' other h]
  again store later other honce h hkeeps := by
    -- What is there behind the first step is kept by the second, and so by the later store.
    obtain ⟨filled, called, hgrows, -⟩ := hstep.grows store honce
    rw [Run.run_bind] at h hkeeps ⊢
    rcases hrun : step.run.run store with ⟨stop | value, after⟩
    · rw [hrun] at h
      cases h
    · rw [hrun] at h hkeeps hgrows
      obtain ⟨filled', called', hgrows', -⟩ := (hnext value).grows after hgrows.once
      have hfirst : step.run.run later = (.ok value, later) := by
        apply hstep.again store later value honce (by rw [hrun])
        rw [hrun]
        exact hgrows'.keeps.trans hkeeps
      simp only [hfirst]
      exact (hnext value).again after later other hgrows.once h hkeeps

theorem Run.composes_remembers :
    Composes (fun β (step : Run κ α β) => Run.Remembers step) where
  pure := Run.remembers_pure
  bind hstep hnext := hstep.bind hnext

section Runs

variable [DecidableEq κ] {session : Session κ α} {store later : Store κ α}

/-- A cell is filled the first time, and found from then on. -/
theorem Session.remembers_resolve (session : Session κ α) (cell : Cell κ) :
    Run.Remembers (session.resolve cell) where
  grows store honce := by
    rw [Session.resolve_run]
    have hnote : store.Grows (store.note cell.rule) [] [cell.rule] := ⟨rfl, rfl, honce⟩
    cases hfind : store.find? cell with
    | some parser => exact ⟨[], [], honce.grows, Nat.le_refl _, fun _ _ => rfl⟩
    | none =>
      cases hlookup : session.rules.lookup cell.rule with
      | none => exact ⟨[], [cell.rule], hnote, Nat.zero_le _, fun _ h => by cases h⟩
      | some template =>
        simp only
        rcases hbuild : (build session.shared template).run store.cells with stop | ⟨parser, cells⟩
        · exact ⟨[], [cell.rule], hnote, Nat.zero_le _, fun _ h => by cases h⟩
        · refine ⟨[(cell.id, parser)], [cell.rule], ⟨rfl, rfl, ?_⟩, Nat.le_refl _, fun _ _ => rfl⟩
          -- A cell in which nothing is found is no key of the store.
          refine List.nodup_cons.2 ⟨fun hmem => ?_, honce⟩
          obtain ⟨entry, hentry, hid⟩ := List.mem_map.1 hmem
          have hne := List.lookup_eq_none_iff.1 hfind entry hentry
          simp [hid] at hne
  again store later parser honce h hkeeps := by
    -- A cell that has been resolved holds its parser, were it filled before or only now.
    have hheld : (((session.resolve cell).run.run store).2).find? cell = some parser := by
      rw [Session.resolve_run] at h ⊢
      cases hfind : store.find? cell with
      | some found =>
        rw [hfind] at h
        cases h
        exact hfind
      | none =>
        simp only [hfind] at h ⊢
        cases hlookup : session.rules.lookup cell.rule with
        | none =>
          rw [hlookup] at h
          cases h
        | some template =>
          simp only [hlookup] at h ⊢
          rcases hbuild : (build session.shared template).run store.cells with
            stop | ⟨built, cells⟩
          · rw [hbuild] at h
            cases h
          · rw [hbuild] at h
            cases h
            exact List.lookup_cons_self
    rw [Session.resolve_run, hkeeps cell parser hheld]

theorem Session.remembers_call (session : Session κ α) (input : Text) (depth : Nat)
    (cell : Cell κ) (index : Nat) : Run.Remembers (session.call input depth cell index) := by
  induction depth generalizing cell index with
  | zero => exact Run.remembers_throw .endless
  | succ depth ih =>
    exact (session.remembers_resolve cell).bind fun parser =>
      Run.composes_remembers.parseWith ih parser index

/-- Every run of a session remembers. -/
theorem Session.remembers_parseAt (session : Session κ α) (input : Text) (index : Nat) :
    Run.Remembers (session.parseAt input index) :=
  Run.composes_remembers.parseWith (session.remembers_call input _) session.root index

/-! ## §3. Runs -/

/-- What a run builds comes in front of what was held, an entry for each rule that was resolved
unless the run stops at one. -/
theorem Session.run_grows (session : Session κ α) (honce : store.Once) (input : Text)
    (index : Nat) :
    ∃ filled, (session.run store input index).2.1.parsers = filled ++ store.parsers ∧
      (session.run store input index).2.1.Once ∧
      filled.length ≤ (session.run store input index).2.2.length ∧
      ∀ outcome, (session.run store input index).1 = .ok outcome →
        filled.length = (session.run store input index).2.2.length := by
  obtain ⟨filled, called, hgrows, hle, heq⟩ :=
    (session.remembers_parseAt input index).grows { store with resolved := [] } honce
  have hresolved : (session.run store input index).2.2 = called.reverse := by
    have hcalled := hgrows.resolved
    rw [List.append_nil] at hcalled
    exact congrArg List.reverse hcalled
  refine ⟨filled, hgrows.parsers, hgrows.once, ?_, fun outcome h => ?_⟩
  · rw [hresolved, List.length_reverse]
    exact hle
  · rw [hresolved, List.length_reverse]
    exact heq outcome h

/-- A run that had an outcome has it again on every later store, and resolves no rule there. -/
theorem Session.run_again (session : Session κ α) (honce : store.Once) {input : Text}
    {index : Nat} {outcome : Outcome (Value α)}
    (h : (session.run store input index).1 = .ok outcome)
    (hkeeps : (session.run store input index).2.1.Keeps later) :
    session.run later input index = (.ok outcome, { later with resolved := [] }, []) := by
  have hagain := (session.remembers_parseAt input index).again { store with resolved := [] }
    { later with resolved := [] } outcome honce h hkeeps
  unfold Session.run
  rw [hagain]
  rfl

/-- The store that runs leave behind, one after the other. -/
def Session.after (session : Session κ α) (store : Store κ α) (runs : List (Text × Nat)) :
    Store κ α :=
  runs.foldl (fun store run => (session.run store run.1 run.2).2.1) store

theorem Session.after_append (session : Session κ α) (store : Store κ α)
    (before behind : List (Text × Nat)) :
    session.after store (before ++ behind) = session.after (session.after store before) behind :=
  List.foldl_append

theorem Session.once_after (session : Session κ α) (honce : store.Once)
    (runs : List (Text × Nat)) : (session.after store runs).Once := by
  induction runs generalizing store with
  | nil => exact honce
  | cons run rest ih =>
    obtain ⟨_, _, honce', _⟩ := session.run_grows honce run.1 run.2
    exact ih honce'

/-- Runs keep what a store holds. -/
theorem Session.keeps_after (session : Session κ α) (honce : store.Once)
    (runs : List (Text × Nat)) : store.Keeps (session.after store runs) := by
  induction runs generalizing store with
  | nil => exact fun _ _ hfind => hfind
  | cons run rest ih =>
    obtain ⟨filled, hparsers, honce', _⟩ := session.run_grows honce run.1 run.2
    exact (Store.keeps_of_append hparsers honce').trans (ih honce')

theorem Grammar.Reaches.after {grammar : Grammar κ α} (h : grammar.Reaches session store)
    (runs : List (Text × Nat)) : grammar.Reaches session (session.after store runs) := by
  induction runs generalizing store with
  | nil => exact h
  | cons run rest ih => exact ih (h.run run.1 run.2)

/-! ## §4. Histories -/

/-- The session's parser as it stands on a store: each cell with what has been built for it. -/
def Session.standing (session : Session κ α) (store : Store κ α) :
    Parser (Cell κ × Option (BuiltParser κ α)) α :=
  session.root.rename fun cell => (cell, store.find? cell)

/-- **What was run before does not show.** Behind any runs of a grammar, the next one has the
outcome that it has on a fresh copy, or none where it has none there. The parser's written form is
the same as ever. Every cell is filled at most once: what is built is put in front of what is held,
an entry with a number of its own for each rule that a run resolves. And a run that has had an
outcome before has it again and resolves nothing. -/
theorem Grammar.history_irrelevant {grammar : Grammar κ α}
    (hstart : grammar.start = .ok (session, store)) (runs : List (Text × Nat)) (input : Text)
    (index : Nat) :
    (∀ outcome, (session.run (session.after store runs) input index).1 = .ok outcome ↔
      (session.run store input index).1 = .ok outcome) ∧
    (session.standing (session.after store runs)).render = session.root.render ∧
    (∃ filled, (session.run (session.after store runs) input index).2.1.parsers =
        filled ++ (session.after store runs).parsers ∧
      (session.run (session.after store runs) input index).2.1.Once ∧
      filled.length ≤ (session.run (session.after store runs) input index).2.2.length ∧
      ∀ outcome, (session.run (session.after store runs) input index).1 = .ok outcome →
        filled.length = (session.run (session.after store runs) input index).2.2.length) ∧
    ∀ before behind outcome, runs = before ++ (input, index) :: behind →
      (session.run (session.after store before) input index).1 = .ok outcome →
      session.run (session.after store runs) input index =
        (.ok outcome, { session.after store runs with resolved := [] }, []) := by
  have hreach : grammar.Reaches session store := .start hstart
  have honce : store.Once := Grammar.once_of_start hstart
  refine ⟨fun outcome => ?_, Parser.render_rename _ _,
    session.run_grows (session.once_after honce runs) input index, ?_⟩
  · rw [(hreach.after runs).run_eq_ok_iff, hreach.run_eq_ok_iff]
  · rintro before behind outcome rfl hrun
    -- All that the earlier run left behind is still there when it is run again.
    have honce' := session.once_after honce before
    obtain ⟨_, _, hagain, _⟩ := session.run_grows honce' input index
    refine session.run_again honce' hrun ?_
    rw [session.after_append]
    exact session.keeps_after hagain behind

end Runs

/-- Parentheses that are run, run on another input, and run again: the two rules that the first run
built are there. -/
theorem history_irrelevant_for_parentheses :
    parentheses.start = .ok (parenthesesSession, ⟨1, [], []⟩) ∧
      (parenthesesSession.run ⟨1, [], []⟩ ['(', ')'] 0).2.2 = [(), ()] ∧
      (parenthesesSession.run (parenthesesSession.after ⟨1, [], []⟩
        [(['(', ')'], 0), (['(', '('], 1)]) ['(', ')'] 0).2.2 = [] := by
  have hstart : parentheses.start = .ok (parenthesesSession, ⟨1, [], []⟩) := rfl
  have hrun : (parenthesesSession.run ⟨1, [], []⟩ ['(', ')'] 0).1 = .ok (.success ⟨['(', ')'], 0,
      .list [.pair (.text ['(']) (.pair (.list []) (.text [')']))]⟩) := rfl
  obtain ⟨_, _, _, hagain⟩ := Grammar.history_irrelevant hstart
    [(['(', ')'], 0), (['(', '('], 1)] ['(', ')'] 0
  have hrepeated := hagain [] [(['(', '('], 1)] _ rfl hrun
  exact ⟨hstart, rfl, by rw [hrepeated]⟩

end Backtrack
