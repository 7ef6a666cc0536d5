import Backtrack.Proofs.Parser.Parallel
import Backtrack.Proofs.Session.Adequacy

/-! # Runs without a store

    What a run answers does not depend on what earlier runs have built, and
    neither does whether it stops, and why: a run ends as an evaluation does
    that knows rules only and has no store.

    At which cell a run stops does not show in its result. A *located* run is
    the same run which says so when it stops.

    * `Session.erase_parseLocated`: located runs are runs.
    * `Session.follows_parseLocated`: located runs and evaluations.
    * `Session.Sound.run_eq_evaluate`: runs and evaluations. -/

namespace Backtrack

variable {κ α β γ δ : Type}

/-! ## §1. Runs in step -/

/-- Both end, with related values, or both stop, for the same reason. -/
inductive EndsAlike (r : γ → δ → Prop) : Except Stop γ → Except Stop δ → Prop where
  | ok {value : γ} {value' : δ} : r value value' → EndsAlike r (.ok value) (.ok value')
  | error (stop : Stop) : EndsAlike r (.error stop) (.error stop)

theorem EndsAlike.eq {result result' : Except Stop (Outcome γ)}
    (h : EndsAlike (Outcome.Agrees Eq) result result') : result = result' := by
  cases h with
  | ok hagrees => rw [Outcome.agrees_eq_iff.1 hagrees]
  | error stop => rfl

theorem EndsAlike.refl (result : Except Stop (Outcome γ)) :
    EndsAlike (Outcome.Agrees Eq) result result := by
  cases result with
  | ok outcome => exact .ok (Outcome.agrees_eq_iff.2 rfl)
  | error stop => exact .error stop

/-- On related stores the two steps end or stop alike, and leave related stores behind. -/
def Run.InStep (stores : Store κ α → Store κ β → Prop) (r : γ → δ → Prop) (step : Run κ α γ)
    (step' : Run κ β δ) : Prop :=
  ∀ store store', stores store store' →
    EndsAlike r (step.run.run store).1 (step'.run.run store').1 ∧
      stores (step.run.run store).2 (step'.run.run store').2

theorem Run.relates_inStep (stores : Store κ α → Store κ β → Prop) :
    Relates (fun _ _ r (step : Run κ α _) (step' : Run κ β _) =>
      Run.InStep stores r step step') where
  pure hvalue _ _ hstores := ⟨.ok hvalue, hstores⟩
  bind {_ _ _ _ r s step step' next next'} hstep hnext store store' hstores := by
    obtain ⟨hend, hafter⟩ := hstep store store' hstores
    rw [Run.run_bind, Run.run_bind]
    rcases hrun : step.run.run store with ⟨result, after⟩
    rcases hrun' : step'.run.run store' with ⟨result', after'⟩
    rw [hrun, hrun'] at hend hafter
    cases hend with
    | ok hvalue => exact hnext _ _ hvalue after after' hafter
    | error stop => exact ⟨.error stop, hafter⟩

/-! ## §2. Located runs -/

/-- A run that says at which cell it stops. -/
abbrev LocatedRun (κ α β : Type) := ExceptT (Cell κ × Stop) (StateM (Store κ α)) β

/-- The run that does not say it. -/
def LocatedRun.erase (step : LocatedRun κ α β) : Run κ α β :=
  step.adapt Prod.snd

namespace LocatedRun

variable {step : LocatedRun κ α β} {store after : Store κ α}

theorem run_erase (step : LocatedRun κ α β) (store : Store κ α) :
    step.erase.run.run store =
      ((step.run.run store).1.mapError Prod.snd, (step.run.run store).2) :=
  rfl

theorem erase_bind (step : LocatedRun κ α β) (next : β → LocatedRun κ α γ) :
    (step >>= next).erase = step.erase >>= fun value => (next value).erase := by
  refine ExceptT.ext (StateT.ext fun store => ?_)
  show (step >>= next).erase.run.run store = (step.erase >>= _).run.run store
  rw [run_erase, Run.run_bind, Run.run_bind, run_erase]
  rcases step.run.run store with ⟨stop | value, after⟩
  · rfl
  · rfl

/-- Both have the same answers. -/
theorem run_erase_eq_ok_iff {value : β} :
    step.erase.run.run store = (.ok value, after) ↔ step.run.run store = (.ok value, after) := by
  rw [run_erase]
  rcases step.run.run store with ⟨stop | value', after'⟩
  · exact ⟨nofun, nofun⟩
  · constructor
    · intro h
      cases h
      rfl
    · intro h
      cases h
      rfl

/-- Erasure goes through a parser. -/
theorem erase_parseWith {located : Cell κ → Nat → LocatedRun κ α (Outcome (Value α))}
    {call : Cell κ → Nat → Run κ α (Outcome (Value α))}
    (hcall : ∀ cell index, (located cell index).erase = call cell index) (input : Text)
    (parser : BuiltParser κ α) (index : Nat) :
    (parser.parseWith located input index).erase = parser.parseWith call input index := by
  have hrelates : Relates (fun _ _ r (step : LocatedRun κ α _) (step' : Run κ α _) =>
      Run.InStep Eq r step.erase step') := by
    refine ⟨fun hvalue => (Run.relates_inStep Eq).pure hvalue, fun hstep hnext => ?_⟩
    rw [erase_bind]
    exact (Run.relates_inStep Eq).bind hstep hnext
  have hcalls (cell cell' : Cell κ) (heq : cell = cell') (index : Nat) :
      Run.InStep Eq (Outcome.Agrees Eq) (located cell index).erase (call cell' index) := by
    subst heq
    rw [hcall]
    rintro store _ rfl
    exact ⟨.refl _, rfl⟩
  have hparallel := Parser.parallel_rename id parser fun _ _ => rfl
  rw [Parser.rename_id] at hparallel
  have hruns := hrelates.parseWith input Value.congruent_eq hcalls hparallel index
  refine ExceptT.ext (StateT.ext fun store => ?_)
  obtain ⟨hend, hstore⟩ := hruns store store rfl
  exact Prod.ext hend.eq hstore

end LocatedRun

section Located

variable [DecidableEq κ]

/-- The parser of a cell, or the cell and why its rule cannot be built. -/
def Session.resolveLocated (session : Session κ α) (cell : Cell κ) :
    LocatedRun κ α (BuiltParser κ α) :=
  (session.resolve cell).adapt fun stop => (cell, stop)

/-- Runs what a cell stands for. -/
def Session.callLocated (session : Session κ α) (input : Text) :
    (depth : Nat) → Cell κ → Nat → LocatedRun κ α (Outcome (Value α))
  | 0, cell, _ => throw (cell, .endless)
  | depth + 1, cell, index => do
    let parser ← session.resolveLocated cell
    parser.parseWith (session.callLocated input depth) input index

/-- Runs the session's parser. -/
def Session.parseLocated (session : Session κ α) (input : Text) (index : Nat) :
    LocatedRun κ α (Outcome (Value α)) :=
  session.root.parseWith (session.callLocated input (session.depthFor input)) input index

/-- The cell at which a run on a store stops, if it stops. -/
def Session.stopsAt? (session : Session κ α) (store : Store κ α) (input : Text) (index : Nat) :
    Option (Cell κ) :=
  match ((session.parseLocated input index).run.run { store with resolved := [] }).1 with
  | .ok _ => none
  | .error (cell, _) => some cell

theorem Session.run_resolveLocated (session : Session κ α) (cell : Cell κ) (store : Store κ α) :
    (session.resolveLocated cell).run.run store =
      (((session.resolve cell).run.run store).1.mapError fun stop => (cell, stop),
        ((session.resolve cell).run.run store).2) :=
  rfl

theorem Session.resolveLocated_eq_error_iff {session : Session κ α} {store after : Store κ α}
    {cell other : Cell κ} {stop : Stop} :
    (session.resolveLocated cell).run.run store = (.error (other, stop), after) ↔
      cell = other ∧ (session.resolve cell).run.run store = (.error stop, after) := by
  rw [Session.run_resolveLocated]
  rcases (session.resolve cell).run.run store with ⟨reason | parser, left⟩
  · constructor
    · intro h
      cases h
      exact ⟨rfl, rfl⟩
    · rintro ⟨rfl, h⟩
      cases h
      rfl
  · exact ⟨nofun, nofun⟩

theorem Session.erase_resolveLocated (session : Session κ α) (cell : Cell κ) :
    (session.resolveLocated cell).erase = session.resolve cell := by
  refine ExceptT.ext (StateT.ext fun store => ?_)
  show (session.resolveLocated cell).erase.run.run store = (session.resolve cell).run.run store
  rw [LocatedRun.run_erase, Session.run_resolveLocated]
  rcases (session.resolve cell).run.run store with ⟨stop | parser, after⟩
  · rfl
  · rfl

theorem Session.erase_callLocated (session : Session κ α) (input : Text) (depth : Nat)
    (cell : Cell κ) (index : Nat) :
    (session.callLocated input depth cell index).erase = session.call input depth cell index := by
  induction depth generalizing cell index with
  | zero => rfl
  | succ depth ih =>
    unfold Session.callLocated Session.call
    rw [LocatedRun.erase_bind, session.erase_resolveLocated]
    simp only [LocatedRun.erase_parseWith ih]

/-- **A located run is the run**, and says in addition where it stops. -/
theorem Session.erase_parseLocated (session : Session κ α) (input : Text) (index : Nat) :
    (session.parseLocated input index).erase = session.parseAt input index :=
  LocatedRun.erase_parseWith (session.erase_callLocated input _) input session.root index

end Located

/-! ## §3. Evaluation without a store -/

section Blueprints

variable [DecidableEq κ]

/-- What a rule stands for, or why it cannot be built. -/
def Session.blueprint (session : Session κ α) (name : κ) : Except Stop (Parser κ α) :=
  match session.rules.lookup name with
  | none => .error .unknownName
  | some template => ((build session.shared template).run 0).map fun built => built.1.overRules

/-- Evaluates a rule, entering at most so many rules one inside the other. -/
def Session.answer (session : Session κ α) (input : Text) :
    (depth : Nat) → κ → Nat → Except Stop (Outcome (Value α))
  | 0, _, _ => .error .endless
  | depth + 1, name, index => do
    let parser ← session.blueprint name
    parser.parseWith (session.answer input depth) input index

/-- Evaluates the session's parser. -/
def Session.evaluate (session : Session κ α) (input : Text) (index : Nat) :
    Except Stop (Outcome (Value α)) :=
  session.parser.parseWith (session.answer input (session.depthFor input)) input index

/-- A rule is built from every number on, or from none. -/
theorem Session.blueprint_of_lookup {session : Session κ α} {name : κ} {template : Template κ α}
    (hlookup : session.rules.lookup name = some template) (n : Nat) :
    session.blueprint name =
      ((build session.shared template).run n).map fun built => built.1.overRules := by
  unfold Session.blueprint
  simp only [hlookup]
  exact build_alike session.shared template 0 n

/-- The rules that stand for something are those that can be built. -/
theorem Session.rule?_eq_toOption (session : Session κ α) (name : κ) :
    session.rule? name = (session.blueprint name).toOption := by
  unfold Session.rule? Session.blueprint
  cases session.rules.lookup name with
  | none => rfl
  | some template =>
    simp only
    rcases (build session.shared template).run 0 with stop | ⟨parser, cells⟩
    · rfl
    · rfl

/-- What a located step leaves behind, next to an evaluation: they end or stop alike, and the cell
where the step stops is one of the store's, for a rule that cannot be built unless it is entered
without end. -/
inductive Session.EndsAs (session : Session κ α) (after : Store κ α) (r : γ → δ → Prop) :
    Except (Cell κ × Stop) γ → Except Stop δ → Prop where
  | ok {value : γ} {value' : δ} : r value value' → session.EndsAs after r (.ok value) (.ok value')
  | error {cell : Cell κ} {stop : Stop} : session.Live after cell →
      (stop ≠ .endless → session.blueprint cell.rule = .error stop) →
      session.EndsAs after r (.error (cell, stop)) (.error stop)

/-- On every sound store in which the cells are live, the step ends as the evaluation does. -/
def Session.Follows (session : Session κ α) (cells : Cell κ → Prop) (r : γ → δ → Prop)
    (step : LocatedRun κ α γ) (result : Except Stop δ) : Prop :=
  ∀ store, session.Sound store → (∀ cell, cells cell → session.Live store cell) →
    session.Extends store (step.run.run store).2 ∧
      session.EndsAs (step.run.run store).2 r (step.run.run store).1 result

variable {session : Session κ α} {cells : Cell κ → Prop}

theorem Session.relates_follows (session : Session κ α) (cells : Cell κ → Prop) :
    Relates (fun _ _ r (step : LocatedRun κ α _) (result : Except Stop _) =>
      session.Follows cells r step result) where
  pure hvalue store hsound _ := ⟨hsound.extends, .ok hvalue⟩
  bind {_ _ _ _ r s step result next next'} hstep hnext store hsound hlive := by
    obtain ⟨hextends, hends⟩ := hstep store hsound hlive
    rw [Run.run_bind]
    rcases hrun : step.run.run store with ⟨ending, after⟩
    rw [hrun] at hextends hends
    cases hends with
    | error hcell hrule => exact ⟨hextends, .error hcell hrule⟩
    | ok hvalue =>
      -- What the first step extends, the second extends further.
      obtain ⟨hextends', hends'⟩ := hnext _ _ hvalue after hextends.sound
        fun cell hcell => hextends.live cell (hlive cell hcell)
      exact ⟨hextends.trans hextends', hends'⟩

/-- Resolving a cell stops if the cell is empty and its rule cannot be built. It stays empty. -/
theorem Session.resolve_eq_error_iff {store after : Store κ α} {cell : Cell κ} {stop : Stop} :
    (session.resolve cell).run.run store = (.error stop, after) ↔
      store.find? cell = none ∧ session.blueprint cell.rule = .error stop ∧
        after = store.note cell.rule := by
  rw [Session.resolve_run]
  cases hfind : store.find? cell with
  | some parser => exact ⟨nofun, nofun⟩
  | none =>
    cases hlookup : session.rules.lookup cell.rule with
    | none =>
      simp only [Session.blueprint, hlookup]
      constructor
      · intro h
        cases h
        exact ⟨trivial, rfl, rfl⟩
      · rintro ⟨_, hstop, rfl⟩
        cases hstop
        rfl
    | some template =>
      rw [Session.blueprint_of_lookup hlookup store.cells]
      rcases hbuild : (build session.shared template).run store.cells with other | ⟨parser, cells⟩
      · simp only [hbuild]
        constructor
        · intro h
          cases h
          exact ⟨trivial, rfl, rfl⟩
        · rintro ⟨_, hstop, rfl⟩
          cases hstop
          rfl
      · simp only [hbuild]
        exact ⟨nofun, nofun⟩

/-- Resolving a cell follows the blueprint of its rule. -/
theorem Session.resolveLocated_spec {store : Store κ α} {cell : Cell κ}
    (hsound : session.Sound store) (hlive : session.Live store cell) :
    session.Extends store ((session.resolveLocated cell).run.run store).2 ∧
      session.EndsAs ((session.resolveLocated cell).run.run store).2
        (fun parser parser' => parser.overRules = parser' ∧ ∀ c, parser.Mentions c →
          session.Live ((session.resolveLocated cell).run.run store).2 c)
        ((session.resolveLocated cell).run.run store).1 (session.blueprint cell.rule) := by
  obtain ⟨hextends, hresolved⟩ := Session.resolve_spec hsound hlive
  rw [Session.run_resolveLocated]
  rcases hrun : (session.resolve cell).run.run store with ⟨stop | parser, after⟩
  · rw [hrun] at hextends
    obtain ⟨_, hblueprint, _⟩ := Session.resolve_eq_error_iff.1 hrun
    rw [hblueprint]
    exact ⟨hextends, .error (hextends.live cell hlive) fun _ => hblueprint⟩
  · -- The parser found or built is the rule's, so the rule has a blueprint.
    rw [hrun] at hextends hresolved
    obtain ⟨hrule, hcells⟩ := hresolved
    have hblueprint : session.blueprint cell.rule = .ok parser.overRules := by
      rw [Session.rule?_eq_toOption] at hrule
      cases hname : session.blueprint cell.rule with
      | error stop =>
        rw [hname] at hrule
        cases hrule
      | ok other =>
        rw [hname] at hrule
        rw [Option.some.inj hrule]
    rw [hblueprint]
    exact ⟨hextends, .ok ⟨rfl, hcells⟩⟩

/-- A parser follows its evaluation over rules, if its calls do. -/
theorem Session.follows_parseWith {call : Cell κ → Nat → LocatedRun κ α (Outcome (Value α))}
    {answer : κ → Nat → Except Stop (Outcome (Value α))}
    (hcall : ∀ cell index,
      session.Follows (· = cell) (Outcome.Agrees Eq) (call cell index) (answer cell.rule index))
    (input : Text) (parser : BuiltParser κ α) (index : Nat) :
    session.Follows parser.Mentions (Outcome.Agrees Eq) (parser.parseWith call input index)
      (parser.overRules.parseWith answer input index) := by
  have hcalls (cell : Cell κ) (name : κ) (hname : parser.Mentions cell ∧ cell.rule = name)
      (index : Nat) :
      session.Follows parser.Mentions (Outcome.Agrees Eq) (call cell index)
        (answer name index) := by
    obtain ⟨hmentions, rfl⟩ := hname
    intro store hsound hlive
    refine hcall cell index store hsound ?_
    rintro _ rfl
    exact hlive _ hmentions
  exact (session.relates_follows parser.Mentions).parseWith input Value.congruent_eq hcalls
    (Parser.parallel_rename Cell.rule parser fun name hname => ⟨hname, rfl⟩) index

theorem Session.follows_callLocated (session : Session κ α) (input : Text) (depth : Nat)
    (cell : Cell κ) (index : Nat) :
    session.Follows (· = cell) (Outcome.Agrees Eq) (session.callLocated input depth cell index)
      (session.answer input depth cell.rule index) := by
  induction depth generalizing cell index with
  | zero =>
    intro store hsound hlive
    exact ⟨hsound.extends, .error (hlive cell rfl) fun hne => absurd rfl hne⟩
  | succ depth ih =>
    intro store hsound hlive
    obtain ⟨hextends, hends⟩ := Session.resolveLocated_spec hsound (hlive cell rfl)
    unfold Session.callLocated Session.answer
    rw [Run.run_bind]
    rcases hrun : (session.resolveLocated cell).run.run store with ⟨ending, after⟩
    rw [hrun] at hextends hends
    generalize session.blueprint cell.rule = blueprint at hends
    cases hends with
    | error hcell hrule => exact ⟨hextends, .error hcell hrule⟩
    | @ok parser parser' hparser =>
      -- The parser that the cell holds runs at one depth less, and its cells are live by now.
      obtain ⟨rfl, hcells⟩ := hparser
      obtain ⟨hextends', hends'⟩ :=
        Session.follows_parseWith ih input parser index after hextends.sound hcells
      exact ⟨hextends.trans hextends', hends'⟩

/-- **A run ends as the evaluation of the session's parser does**, which has no store. -/
theorem Session.follows_parseLocated (session : Session κ α) (input : Text) (index : Nat) :
    session.Follows session.root.Mentions (Outcome.Agrees Eq) (session.parseLocated input index)
      (session.evaluate input index) :=
  Session.follows_parseWith (session.follows_callLocated input _) input session.root index

/-! ## §4. Runs -/

variable {store : Store κ α}

theorem Session.run_eq_located (session : Session κ α) (store : Store κ α) (input : Text)
    (index : Nat) :
    session.run store input index =
      (((session.parseLocated input index).run.run { store with resolved := [] }).1.mapError
          Prod.snd,
        ((session.parseLocated input index).run.run { store with resolved := [] }).2,
        ((session.parseLocated input index).run.run
          { store with resolved := [] }).2.resolved.reverse) := by
  unfold Session.run
  rw [← session.erase_parseLocated, LocatedRun.run_erase]

/-- On a sound store a run ends as the evaluation does, or stops as it does. -/
theorem Session.Sound.run_eq_evaluate (h : session.Sound store) (input : Text) (index : Nat) :
    (session.run store input index).1 = session.evaluate input index := by
  have hforget : session.Sound { store with resolved := [] } := h.of_eq rfl rfl
  obtain ⟨_, hends⟩ :=
    session.follows_parseLocated input index _ hforget fun cell hcell => .inl hcell
  rw [Session.run_eq_located]
  generalize ((session.parseLocated input index).run.run { store with resolved := [] }).1 = ending
    at hends
  generalize session.evaluate input index = result at hends
  cases hends with
  | ok hagrees => exact congrArg Except.ok (Outcome.agrees_eq_iff.1 hagrees)
  | error _ _ => rfl

/-- A run that stops at a rule that cannot be built stops at a live cell for it. -/
theorem Session.Sound.exists_cell_of_run (h : session.Sound store) {input : Text} {index : Nat}
    {stop : Stop} (hrun : (session.run store input index).1 = .error stop) (hne : stop ≠ .endless) :
    ∃ cell after,
      (session.parseLocated input index).run.run { store with resolved := [] } =
        (.error (cell, stop), after) ∧
      session.Live after cell ∧ session.blueprint cell.rule = .error stop := by
  have hforget : session.Sound { store with resolved := [] } := h.of_eq rfl rfl
  obtain ⟨_, hends⟩ :=
    session.follows_parseLocated input index _ hforget fun cell hcell => .inl hcell
  rw [← h.run_eq_evaluate, hrun] at hends
  rcases hlocated : (session.parseLocated input index).run.run { store with resolved := [] } with
    ⟨ending, after⟩
  rw [hlocated] at hends
  cases hends with
  | @error cell _ hlive hrule => exact ⟨cell, after, rfl, hlive, hrule hne⟩

end Blueprints

end Backtrack
