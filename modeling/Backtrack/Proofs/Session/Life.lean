import Backtrack.Proofs.Session.Construction

/-! # Stores between runs

    The cells that are *live* are those that a run can meet: they stand in
    the session's own parsers or in a parser that the store holds. A store
    is *sound* if live cells are told apart by their numbers and a cell that
    has been resolved holds what its rule stands for.

    * `Grammar.Reaches`: the stores that a grammar's runs leave behind,
      whether they end with an outcome or stop without one.
    * `Session.resolve_spec`: resolving a cell keeps a store sound and gives
      what the cell's rule stands for.
    * `Grammar.sound_of_start`: a grammar starts with a sound store. -/

namespace Backtrack

variable {κ α β γ : Type}

/-! ## §1. Live cells and sound stores -/

/-- The cell stands in the session's parsers or in one that the store holds. -/
def Session.Live (session : Session κ α) (store : Store κ α) (cell : Cell κ) : Prop :=
  session.root.Mentions cell ∨ session.shared.Mentions cell ∨
    ∃ entry ∈ store.parsers, entry.2.Mentions cell

/-- Live cells are told apart by their numbers, and what is held for them is what their rules stand
for. -/
structure Session.Sound [DecidableEq κ] (session : Session κ α) (store : Store κ α) : Prop where
  below : ∀ cell, session.Live store cell → cell.id < store.cells
  keys_below : ∀ entry ∈ store.parsers, entry.1 < store.cells
  coherent : ∀ cell cell', session.Live store cell → session.Live store cell' →
    cell.id = cell'.id → cell.rule = cell'.rule
  resolved : ∀ cell parser, session.Live store cell → store.find? cell = some parser →
    session.rule? cell.rule = some parser.overRules

section Stores

variable {session : Session κ α} {store store' : Store κ α} {cell : Cell κ}

theorem Session.live_of_parsers_eq (hparsers : store'.parsers = store.parsers)
    (h : session.Live store cell) : session.Live store' cell := by
  unfold Session.Live at h ⊢
  rw [hparsers]
  exact h

/-- What a store remembers about the rules called for does not matter. -/
theorem Session.Sound.of_eq [DecidableEq κ] (h : session.Sound store)
    (hcells : store'.cells = store.cells) (hparsers : store'.parsers = store.parsers) :
    session.Sound store' where
  below cell hlive := by
    rw [hcells]
    exact h.below cell (Session.live_of_parsers_eq hparsers.symm hlive)
  keys_below entry hmem := by
    rw [hparsers] at hmem
    rw [hcells]
    exact h.keys_below entry hmem
  coherent cell cell' hlive hlive' :=
    h.coherent cell cell' (Session.live_of_parsers_eq hparsers.symm hlive)
      (Session.live_of_parsers_eq hparsers.symm hlive')
  resolved cell parser hlive hfind := by
    unfold Store.find? at hfind
    rw [hparsers] at hfind
    exact h.resolved cell parser (Session.live_of_parsers_eq hparsers.symm hlive) hfind

/-- A parser that is held for a cell mentions live cells only. -/
theorem Session.live_of_find? {parser : BuiltParser κ α} (hfind : store.find? cell = some parser)
    {cell' : Cell κ} (h : parser.Mentions cell') : session.Live store cell' := by
  obtain ⟨before, behind, hparsers, _⟩ := List.lookup_eq_some_iff.1 hfind
  exact .inr (.inr ⟨(cell.id, parser), by simp [hparsers], h⟩)

/-- Filling a cell keeps the cells that were live and adds those of the new parser. -/
theorem Session.live_fill_iff {parser : BuiltParser κ α} {cells : Nat} {cell' : Cell κ} :
    session.Live (store.fill cell parser cells) cell' ↔
      session.Live store cell' ∨ parser.Mentions cell' := by
  simp only [Session.Live, Store.fill, List.mem_cons, exists_eq_or_imp]
  constructor
  · rintro (h | h | h | h)
    · exact .inl (.inl h)
    · exact .inl (.inr (.inl h))
    · exact .inr h
    · exact .inl (.inr (.inr h))
  · rintro ((h | h | h) | h)
    · exact .inl h
    · exact .inr (.inl h)
    · exact .inr (.inr (.inr h))
    · exact .inr (.inr (.inl h))

/-- Filling a live cell with its rule keeps a store sound. -/
theorem Session.Sound.fill [DecidableEq κ] (h : session.Sound store)
    {template : Template κ α} {parser : BuiltParser κ α} {cells : Nat}
    (hlive : session.Live store cell) (hlookup : session.rules.lookup cell.rule = some template)
    (hbuild : (build session.shared template).run store.cells = .ok (parser, cells)) :
    session.Sound (store.fill cell parser cells) := by
  have hfresh : Fresh session.shared store.cells cells parser.Mentions :=
    build_fresh (fun c hc => h.below c (.inr (.inl hc))) hbuild
  have hle := hfresh.le
  -- A live cell is an old one, or has a number that was not given before.
  have split_live (c : Cell κ) (hc : session.Live (store.fill cell parser cells) c) :
      session.Live store c ∨ (parser.Mentions c ∧ c.id < cells) ∧ store.cells ≤ c.id := by
    rcases Session.live_fill_iff.1 hc with hold | hmentions
    · exact .inl hold
    · rcases hfresh.old_or_new c hmentions with hshared | hnew
      · exact .inl (.inr (.inl hshared))
      · exact .inr ⟨⟨hmentions, hnew.2⟩, hnew.1⟩
  refine ⟨?_, ?_, ?_, ?_⟩
  · intro c hc
    show c.id < cells
    rcases split_live c hc with hold | ⟨⟨_, hlt⟩, _⟩
    · have hlt := h.below c hold
      omega
    · exact hlt
  · intro entry hmem
    show entry.1 < cells
    rcases List.mem_cons.1 hmem with rfl | hmem
    · have hlt := h.below cell hlive
      show cell.id < cells
      omega
    · have hlt := h.keys_below entry hmem
      omega
  · intro c c' hc hc' hid
    exact rule_eq_of_split split_live h.below h.coherent
      (fun c c' hnew hnew' => hfresh.coherent c c' hnew.1 hnew'.1) hc hc' hid
  · intro c found hc hfind
    have hfind' : List.lookup c.id ((cell.id, parser) :: store.parsers) = some found := hfind
    -- The parser that is found is the new one, or was held before.
    by_cases hid : c.id = cell.id
    · have hfound : parser = found := by
        simpa [List.lookup_cons, hid] using hfind'
      have hrule : c.rule = cell.rule := by
        rcases split_live c hc with hold | ⟨_, hlo⟩
        · exact h.coherent c cell hold hlive hid
        · have hlt := h.below cell hlive
          omega
      rw [hrule, ← hfound]
      exact Session.rule?_eq_some_of_build hlookup hbuild
    · have hbeq : (c.id == cell.id) = false := by simpa using hid
      rw [List.lookup_cons, hbeq] at hfind'
      rcases split_live c hc with hold | ⟨_, hlo⟩
      · exact h.resolved c found hold hfind'
      · -- A new number is no key of the store.
        obtain ⟨before, behind, hparsers, _⟩ := List.lookup_eq_some_iff.1 hfind'
        have hlt := h.keys_below (c.id, found) (by simp [hparsers])
        simp only at hlt
        omega

/-! ## §2. Resolving a cell -/

/-- The second step starts from the state that the first one left, be it a store or any other. -/
theorem Run.run_bind {ε σ : Type} (x : ExceptT ε (StateM σ) β) (f : β → ExceptT ε (StateM σ) γ)
    (state : σ) :
    (x >>= f).run.run state =
      match x.run.run state with
      | (.ok value, after) => (f value).run.run after
      | (.error stop, after) => (.error stop, after) := by
  show (match x.run.run state with
    | (result, after) => (ExceptT.bindCont f result).run after) = _
  rcases x.run.run state with ⟨_ | _, _⟩ <;> rfl

theorem Run.run_get (store : Store κ α) :
    (get : Run κ α (Store κ α)).run.run store = (.ok store, store) :=
  rfl

theorem Run.run_modify (f : Store κ α → Store κ α) (store : Store κ α) :
    (modify f : Run κ α PUnit).run.run store = (.ok ⟨⟩, f store) :=
  rfl

/-- A later store: it is sound, and cells that were live still are. -/
structure Session.Extends [DecidableEq κ] (session : Session κ α) (store after : Store κ α) :
    Prop where
  sound : session.Sound after
  live : ∀ cell, session.Live store cell → session.Live after cell

theorem Session.Extends.trans [DecidableEq κ] {store'' : Store κ α}
    (h₁ : session.Extends store store') (h₂ : session.Extends store' store'') :
    session.Extends store store'' where
  sound := h₂.sound
  live cell hlive := h₂.live cell (h₁.live cell hlive)

theorem Session.Sound.extends [DecidableEq κ] (h : session.Sound store) :
    session.Extends store store where
  sound := h
  live _ hlive := hlive

/-- The ways in which a cell is resolved. -/
theorem Session.resolve_run [DecidableEq κ] (session : Session κ α) (store : Store κ α)
    (cell : Cell κ) :
    (session.resolve cell).run.run store =
      match store.find? cell with
      | some parser => (.ok parser, store)
      | none =>
        match session.rules.lookup cell.rule with
        | none => (.error .unknownName, store.note cell.rule)
        | some template =>
          match (build session.shared template).run store.cells with
          | .error stop => (.error stop, store.note cell.rule)
          | .ok (parser, cells) => (.ok parser, (store.note cell.rule).fill cell parser cells) := by
  unfold Session.resolve
  rw [Run.run_bind, Run.run_get]
  cases hfind : store.find? cell with
  | some parser =>
    simp only [hfind]
    rfl
  | none =>
    simp only [hfind, Run.run_bind, Run.run_modify]
    cases hlookup : session.rules.lookup cell.rule with
    | none => rfl
    | some template =>
      have hcells : (store.note cell.rule).cells = store.cells := rfl
      simp only [Run.run_bind, Run.run_get, hcells]
      cases hbuild : (build session.shared template).run store.cells with
      | error stop => rfl
      | ok pair => rfl

/-- Resolving a live cell keeps the store sound and gives what the cell's rule stands for. -/
theorem Session.resolve_spec [DecidableEq κ] (h : session.Sound store)
    (hlive : session.Live store cell) :
    session.Extends store ((session.resolve cell).run.run store).2 ∧
      match ((session.resolve cell).run.run store).1 with
      | .ok parser => session.rule? cell.rule = some parser.overRules ∧
          ∀ c, parser.Mentions c → session.Live ((session.resolve cell).run.run store).2 c
      | .error _ => session.rule? cell.rule = none := by
  -- A rule is noted before it is built, and stays so where it cannot be built.
  have hnote : session.Extends store (store.note cell.rule) :=
    ⟨h.of_eq rfl rfl, fun c hc => Session.live_of_parsers_eq rfl hc⟩
  rw [Session.resolve_run]
  cases hfind : store.find? cell with
  | some parser =>
    exact ⟨h.extends, h.resolved cell parser hlive hfind,
      fun c hc => Session.live_of_find? hfind hc⟩
  | none =>
    cases hlookup : session.rules.lookup cell.rule with
    | none =>
      refine ⟨hnote, ?_⟩
      simp only [Session.rule?, hlookup]
    | some template =>
      cases hbuild : (build session.shared template).run store.cells with
      | error stop =>
        simp only [hbuild]
        exact ⟨hnote, Session.rule?_eq_none_of_build hlookup hbuild⟩
      | ok pair =>
        obtain ⟨parser, cells⟩ := pair
        simp only [hbuild]
        refine ⟨⟨hnote.sound.fill (hnote.live cell hlive) hlookup hbuild, fun c hc => ?_⟩,
          Session.rule?_eq_some_of_build hlookup hbuild, fun c hc => ?_⟩
        · exact Session.live_fill_iff.2 (.inl (hnote.live c hc))
        · exact Session.live_fill_iff.2 (.inr hc)

end Stores

/-! ## §3. Stores that runs reach -/

/-- The session of a grammar, and a store that any number of its runs have left behind. -/
inductive Grammar.Reaches [DecidableEq κ] (grammar : Grammar κ α) :
    Session κ α → Store κ α → Prop where
  | start {session : Session κ α} {store : Store κ α} :
      grammar.start = .ok (session, store) → Grammar.Reaches grammar session store
  | run {session : Session κ α} {store : Store κ α} (input : Text) (index : Nat) :
      Grammar.Reaches grammar session store →
      Grammar.Reaches grammar session (session.run store input index).2.1

/-- A session is what its grammar starts with, whatever has been run. -/
theorem Grammar.Reaches.exists_start [DecidableEq κ] {grammar : Grammar κ α}
    {session : Session κ α} {store : Store κ α} (h : grammar.Reaches session store) :
    ∃ first, grammar.start = .ok (session, first) := by
  induction h with
  | start hstart => exact ⟨_, hstart⟩
  | run _ _ _ ih => exact ih

/-- The shared parsers that are built have new cells only. -/
theorem buildShared_fresh {templates : List (String × Template κ α)}
    {built shared : SharedParsers κ α} {first behind : Nat}
    (hbuilt : Fresh ([] : SharedParsers κ α) 0 first built.Mentions)
    (h : (buildShared built templates).run first = .ok (shared, behind)) :
    Fresh ([] : SharedParsers κ α) 0 behind shared.Mentions := by
  induction templates generalizing built first with
  | nil =>
    obtain ⟨rfl, rfl⟩ := Prod.mk.inj (Construct.run_pure_eq_ok_iff.1 h)
    exact hbuilt
  | cons entry rest ih =>
    obtain ⟨name, template⟩ := entry
    obtain ⟨parser, m, hparser, h⟩ := Construct.run_bind_eq_ok_iff.1 h
    have hnone (cell : Cell κ) : ¬ SharedParsers.Mentions ([] : SharedParsers κ α) cell := by
      rintro ⟨entry, hmem, _⟩
      simp at hmem
    have hbelow (cell : Cell κ) (hcell : built.Mentions cell) : cell.id < first := by
      rcases hbuilt.old_or_new cell hcell with hold | ⟨_, hlt⟩
      · exact absurd hold (hnone cell)
      · exact hlt
    have hfresh := build_fresh hbelow hparser
    refine @ih ((name, parser) :: built) m ?_ h
    -- The cells of the new parser are those of earlier ones or new.
    have hsplit (cell : Cell κ) (hcell : SharedParsers.Mentions ((name, parser) :: built) cell) :
        built.Mentions cell ∨ (parser.Mentions cell ∧ cell.id < m) ∧ first ≤ cell.id := by
      obtain ⟨entry, hmem, hcell⟩ := hcell
      rcases List.mem_cons.1 hmem with rfl | hmem
      · rcases hfresh.old_or_new cell hcell with hold | hnew
        · exact .inl hold
        · exact .inr ⟨⟨hcell, hnew.2⟩, hnew.1⟩
      · exact .inl ⟨entry, hmem, hcell⟩
    refine ⟨Nat.zero_le m, ?_, ?_⟩
    · intro cell hcell
      have hle := hfresh.le
      rcases hsplit cell hcell with hold | ⟨⟨_, hlt⟩, _⟩
      · have hlt := hbelow cell hold
        exact .inr ⟨Nat.zero_le _, by omega⟩
      · exact .inr ⟨Nat.zero_le _, hlt⟩
    · intro cell cell' hcell hcell' _ hid
      exact rule_eq_of_split hsplit hbelow
        (fun c c' hold hold' => hbuilt.coherent c c' hold hold' (Nat.zero_le _))
        (fun c c' hnew hnew' => hfresh.coherent c c' hnew.1 hnew'.1) hcell hcell' hid

/-- Builds the shared parsers of a grammar, and then its root. -/
def Grammar.construct (grammar : Grammar κ α) :
    Construct (SharedParsers κ α × BuiltParser κ α) := do
  let shared ← buildShared [] grammar.shared
  let root ← build shared grammar.root
  return (shared, root)

theorem Grammar.start_eq_map (grammar : Grammar κ α) :
    grammar.start = (grammar.construct.run 0).map fun built =>
      (⟨grammar.rules, built.1.1, built.1.2⟩, { cells := built.2 }) := by
  show (grammar.construct.run 0 >>= fun built => pure _) = _
  rcases grammar.construct.run 0 with stop | built
  · rfl
  · rfl

/-- A grammar is built by building its shared parsers and then its root. -/
theorem Grammar.exists_of_start {grammar : Grammar κ α} {session : Session κ α}
    {store : Store κ α} (h : grammar.start = .ok (session, store)) :
    ∃ m, (buildShared [] grammar.shared).run 0 = .ok (session.shared, m) ∧
      (build session.shared grammar.root).run m = .ok (session.root, store.cells) ∧
      session.rules = grammar.rules ∧ store = { cells := store.cells } := by
  rw [Grammar.start_eq_map] at h
  cases hboth : grammar.construct.run 0 with
  | error stop =>
    rw [hboth] at h
    cases h
  | ok built =>
    rw [hboth] at h
    cases h
    obtain ⟨shared, m, hshared, hrest⟩ := Construct.run_bind_eq_ok_iff.1 hboth
    obtain ⟨root, hroot, hpair⟩ := Construct.run_map_eq_ok_iff.1 hrest
    obtain ⟨rfl, rfl⟩ := Prod.mk.inj hpair
    exact ⟨m, hshared, hroot, rfl, rfl⟩

/-- A grammar starts with a sound store. -/
theorem Grammar.sound_of_start [DecidableEq κ] {grammar : Grammar κ α} {session : Session κ α}
    {store : Store κ α} (h : grammar.start = .ok (session, store)) : session.Sound store := by
  obtain ⟨m, hshared, hroot, _, hstore⟩ := Grammar.exists_of_start h
  have hparsers : store.parsers = [] := by rw [hstore]
  have hold : Fresh ([] : SharedParsers κ α) 0 m session.shared.Mentions := by
    refine buildShared_fresh (.nothing fun cell hcell => ?_) hshared
    obtain ⟨entry, hmem, _⟩ := hcell
    simp at hmem
  have hbelow (cell : Cell κ) (hcell : session.shared.Mentions cell) : cell.id < m := by
    rcases hold.old_or_new cell hcell with ⟨entry, hmem, _⟩ | ⟨_, hlt⟩
    · simp at hmem
    · exact hlt
  have hnew := build_fresh hbelow hroot
  have hle := hnew.le
  -- The store holds no parsers yet, so a live cell stands in a shared parser or in the root.
  have split_live (cell : Cell κ) (hlive : session.Live store cell) :
      session.shared.Mentions cell ∨
        (session.root.Mentions cell ∧ cell.id < store.cells) ∧ m ≤ cell.id := by
    rcases hlive with hcell | hcell | ⟨entry, hmem, _⟩
    · rcases hnew.old_or_new cell hcell with hcell' | hbetween
      · exact .inl hcell'
      · exact .inr ⟨⟨hcell, hbetween.2⟩, hbetween.1⟩
    · exact .inl hcell
    · simp [hparsers] at hmem
  refine ⟨?_, ?_, ?_, ?_⟩
  · intro cell hlive
    rcases split_live cell hlive with hcell | ⟨⟨_, hlt⟩, _⟩
    · have hlt := hbelow cell hcell
      omega
    · exact hlt
  · intro entry hmem
    simp [hparsers] at hmem
  · intro cell cell' hlive hlive' hid
    exact rule_eq_of_split split_live hbelow
      (fun c c' hcell hcell' => hold.coherent c c' hcell hcell' (Nat.zero_le _))
      (fun c c' hcell hcell' => hnew.coherent c c' hcell.1 hcell'.1) hlive hlive' hid
  · intro cell parser _ hfind
    simp [Store.find?, hparsers] at hfind

end Backtrack
