import Backtrack.Proofs.Session.History
import Backtrack.Proofs.Session.Located
import Backtrack.Proofs.Session.Outcomes

/-! # Recognition without values

    What a conversion makes of a value goes up to whoever asked for it, and
    nothing on the way looks at it: loops count rounds and compare places,
    failures are made of written forms, and these do not show conversions. So
    as long as no conversion can refuse, grammars that differ in their
    conversions recognize the same, say the same where they do not, and build
    the same rules in the same order.

    * `build_inStep`: construction.
    * `Session.run_inStep`: runs.
    * `Grammar.values_irrelevant`: grammars that are the same without their
      conversions. -/

namespace Backtrack

variable {κ ρ α β γ δ : Type}

/-! ## §1. Parsers without conversions -/

mutual

/-- The parser without its conversions. -/
def Parser.unmapped : Parser ρ α → Parser ρ Unit
  | .literal text => .literal text
  | .pattern expression => .pattern expression
  | .sequence first next => .sequence first.unmapped next.unmapped
  | .choice alternatives => .choice (Parser.unmappedAll alternatives)
  | .repetition body bounds => .repetition body.unmapped bounds
  | .separated body separator bounds => .separated body.unmapped separator.unmapped bounds
  | .option body => .option body.unmapped
  | .negation body => .negation body.unmapped
  | .anchored body => .anchored body.unmapped
  | .mapped body _ => body.unmapped
  | .converted body _ => body.unmapped
  | .deferred name => .deferred name

/-- The parsers without their conversions. -/
def Parser.unmappedAll : List (Parser ρ α) → List (Parser ρ Unit)
  | [] => []
  | parser :: rest => parser.unmapped :: Parser.unmappedAll rest

end

mutual

/-- No conversion in the parser can refuse. -/
def Parser.accepting : Parser ρ α → Bool
  | .literal _ => true
  | .pattern _ => true
  | .sequence first next => first.accepting && next.accepting
  | .choice alternatives => Parser.acceptingAll alternatives
  | .repetition body _ => body.accepting
  | .separated body separator _ => body.accepting && separator.accepting
  | .option body => body.accepting
  | .negation body => body.accepting
  | .anchored body => body.accepting
  | .mapped body _ => body.accepting
  | .converted _ _ => false
  | .deferred _ => true

/-- No conversion in any of the parsers can refuse. -/
def Parser.acceptingAll : List (Parser ρ α) → Bool
  | [] => true
  | parser :: rest => parser.accepting && Parser.acceptingAll rest

end

theorem Parser.unmappedAll_eq_map (parsers : List (Parser ρ α)) :
    Parser.unmappedAll parsers = parsers.map Parser.unmapped := by
  induction parsers with
  | nil => rfl
  | cons parser rest ih => simp only [Parser.unmappedAll, ih, List.map_cons]

theorem Parser.acceptingAll_eq_all (parsers : List (Parser ρ α)) :
    Parser.acceptingAll parsers = parsers.all Parser.accepting := by
  induction parsers with
  | nil => rfl
  | cons parser rest ih => simp only [Parser.acceptingAll, ih, List.all_cons]

/-- The parsers are the same but for their conversions. -/
abbrev Parser.SameShape (parser : Parser ρ α) (parser' : Parser ρ β) : Prop :=
  parser.Parallel Eq (fun _ _ => True) parser'

/-- A parser has the shape of itself without its conversions. -/
theorem Parser.sameShape_unmapped (parser : Parser ρ α) (h : parser.accepting = true) :
    parser.SameShape parser.unmapped := by
  induction parser using Parser.induction with
  | literal text => exact .literal text
  | pattern expression => exact .pattern expression
  | sequence first next hfirst hnext =>
    obtain ⟨h, h'⟩ := Bool.and_eq_true_iff.1 h
    exact .sequence (hfirst h) (hnext h')
  | choice alternatives ih =>
    unfold Parser.accepting at h
    rw [Parser.acceptingAll_eq_all, List.all_eq_true] at h
    simp only [Parser.unmapped, Parser.unmappedAll_eq_map]
    exact Parser.parallel_choice_map Parser.unmapped fun parser hmem =>
      ih parser hmem (h parser hmem)
  | repetition body bounds ih => exact .repetition bounds (ih h)
  | separated body separator bounds hbody hseparator =>
    obtain ⟨h, h'⟩ := Bool.and_eq_true_iff.1 h
    exact .separated bounds (hbody h) (hseparator h')
  | option body ih => exact .option (ih h)
  | negation body ih => exact .negation (ih h)
  | anchored body ih => exact .anchored (ih h)
  | mapped body convert ih => exact .mappedLeft (ih h) fun _ _ _ => trivial
  | converted body convert ih => cases h
  | deferred name => exact .deferred rfl

/-- The lists hold parsers of the same shape under the same names. -/
def SameEntries {name : Type} (entries : List (name × Parser ρ α))
    (entries' : List (name × Parser ρ β)) : Prop :=
  List.Forall₂ (fun entry entry' => entry.1 = entry'.1 ∧ entry.2.SameShape entry'.2)
    entries entries'

/-- What is found under a name has the same shape. -/
theorem SameEntries.lookup {name : Type} [BEq name] {entries : List (name × Parser ρ α)}
    {entries' : List (name × Parser ρ β)} (h : SameEntries entries entries') (key : name) :
    Option.Rel Parser.SameShape (entries.lookup key) (entries'.lookup key) := by
  induction h with
  | nil => exact .none
  | @cons entry entry' rest rest' hentry _ ih =>
    obtain ⟨key', parser⟩ := entry
    obtain ⟨key'', parser'⟩ := entry'
    obtain ⟨hkey, hparser⟩ := hentry
    obtain rfl : key' = key'' := hkey
    rw [List.lookup_cons, List.lookup_cons]
    cases key == key' with
    | true => exact .some hparser
    | false => exact ih

/-! ## §2. Construction -/

/-- From every number on the two constructions build related things and make as many cells, or stop
for the same reason. -/
def Construct.InStep (r : β → γ → Prop) (x : Construct β) (y : Construct γ) : Prop :=
  ∀ n, EndsAlike (fun built built' => r built.1 built'.1 ∧ built.2 = built'.2) (x.run n) (y.run n)

theorem Construct.relates_inStep :
    Relates (fun _ _ r (x : Construct _) (y : Construct _) => Construct.InStep r x y) where
  pure hvalue _ := .ok ⟨hvalue, rfl⟩
  bind {_ _ _ _ r s x y f g} hx hf n := by
    rw [StateT.run_bind, StateT.run_bind]
    have hn := hx n
    rcases hxn : x.run n with stop | ⟨built, m⟩
    · rw [hxn] at hn
      generalize y.run n = ending at hn
      cases hn
      exact .error stop
    · rw [hxn] at hn
      generalize y.run n = ending at hn
      cases hn with
      | @ok _ built' hbuilt =>
        obtain ⟨built', m'⟩ := built'
        obtain ⟨hbuilt, hm⟩ := hbuilt
        obtain rfl : m = m' := hm
        exact hf built built' hbuilt m

theorem Bounds.check_inStep (bounds : Bounds) : Construct.InStep Eq bounds.check bounds.check := by
  intro n
  rcases bounds.check.run n with stop | built
  · exact .error stop
  · exact .ok ⟨rfl, rfl⟩

theorem buildAll_inStep {shared : SharedParsers κ α} {shared' : SharedParsers κ β}
    {templates : List (Template κ α)} {templates' : List (Template κ β)}
    (hlength : templates.length = templates'.length)
    (each : ∀ pair ∈ templates.zip templates',
      Construct.InStep Parser.SameShape (build shared pair.1) (build shared' pair.2)) :
    Construct.InStep (List.Forall₂ Parser.SameShape) (buildAll shared templates)
      (buildAll shared' templates') := by
  induction templates generalizing templates' with
  | nil =>
    cases templates' with
    | nil => exact Construct.relates_inStep.pure .nil
    | cons _ _ => cases hlength
  | cons first rest ih =>
    cases templates' with
    | nil => cases hlength
    | cons first' rest' =>
      obtain ⟨hfirst, hrest⟩ := List.forall_mem_cons.1 each
      refine Construct.relates_inStep.bind hfirst fun parser parser' hparser => ?_
      refine Construct.relates_inStep.bind (ih (Nat.succ.inj hlength) hrest)
        fun parsers parsers' hparsers => ?_
      exact Construct.relates_inStep.pure (.cons hparser hparsers)

/-- Written parsers of the same shape are built into parsers of the same shape. -/
theorem build_inStep {shared : SharedParsers κ α} {shared' : SharedParsers κ β}
    (hshared : SameEntries shared shared') {template : Template κ α} {template' : Template κ β}
    (h : template.SameShape template') :
    Construct.InStep Parser.SameShape (build shared template) (build shared' template') := by
  have hr := Construct.relates_inStep
  induction h with
  | literal text => exact hr.pure (.literal text)
  | pattern expression => exact hr.pure (.pattern expression)
  | sequence _ _ hfirst hnext =>
    exact hr.bind hfirst fun _ _ hfirst => hr.bind hnext fun _ _ hnext =>
      hr.pure (.sequence hfirst hnext)
  | choice hlength _ ih =>
    refine hr.bind (buildAll_inStep hlength ih) fun parsers parsers' hparsers => hr.pure ?_
    obtain ⟨hlength, hzip⟩ := List.forall₂_iff_zip.1 hparsers
    exact .choice hlength fun pair hmem => hzip hmem
  | repetition bounds _ ih =>
    exact hr.bind ih fun _ _ hbody => hr.bind (Bounds.check_inStep bounds) fun _ _ _ =>
      hr.pure (.repetition bounds hbody)
  | separated bounds _ _ ihbody ihseparator =>
    exact hr.bind ihbody fun _ _ hbody => hr.bind (Bounds.check_inStep bounds) fun _ _ _ =>
      hr.bind ihseparator fun _ _ hseparator => hr.pure (.separated bounds hbody hseparator)
  | option _ ih => exact hr.bind ih fun _ _ hbody => hr.pure (.option hbody)
  | negation _ ih => exact hr.bind ih fun _ _ hbody => hr.pure (.negation hbody)
  | anchored _ ih => exact hr.bind ih fun _ _ hbody => hr.pure (.anchored hbody)
  | mapped _ hconvert ih => exact hr.bind ih fun _ _ hbody => hr.pure (.mapped hbody hconvert)
  | @mappedLeft _ template _ _ hconvert ih =>
    -- On the right there is no node for the conversion, so nothing is done for it.
    rw [← bind_pure (build shared' template)]
    exact hr.bind ih fun _ _ hbody => hr.pure (.mappedLeft hbody hconvert)
  | converted _ hconvert ih => exact hr.bind ih fun _ _ hbody => hr.pure (.converted hbody hconvert)
  | @deferred mention mention' heq =>
    subst heq
    cases mention with
    | rule name =>
      intro n
      exact .ok ⟨.deferred rfl, rfl⟩
    | shared name =>
      simp only [build]
      have hlookup := hshared.lookup name
      generalize shared.lookup name = found, shared'.lookup name = found' at hlookup
      cases hlookup with
      | none => exact fun n => .error .unknownName
      | some hparser => exact hr.pure hparser

theorem buildShared_inStep {built : SharedParsers κ α} {built' : SharedParsers κ β}
    {templates : List (String × Template κ α)} {templates' : List (String × Template κ β)}
    (hbuilt : SameEntries built built') (h : SameEntries templates templates') :
    Construct.InStep SameEntries (buildShared built templates) (buildShared built' templates') := by
  induction h generalizing built built' with
  | nil => exact Construct.relates_inStep.pure hbuilt
  | @cons entry entry' rest rest' hentry _ ih =>
    obtain ⟨name, template⟩ := entry
    obtain ⟨name', template'⟩ := entry'
    obtain ⟨hname, htemplate⟩ := hentry
    refine Construct.relates_inStep.bind (build_inStep hbuilt htemplate)
      fun parser parser' hparser => ?_
    exact ih (.cons ⟨hname, hparser⟩ hbuilt)

/-! ## §3. Runs -/

/-- The sessions are the same but for their conversions. -/
structure Session.SameShape (session : Session κ α) (session' : Session κ β) : Prop where
  rules : SameEntries session.rules session'.rules
  shared : SameEntries session.shared session'.shared
  root : session.root.SameShape session'.root

/-- The stores hold the same but for conversions. -/
structure Store.SameShape (store : Store κ α) (store' : Store κ β) : Prop where
  cells : store.cells = store'.cells
  parsers : SameEntries store.parsers store'.parsers
  resolved : store.resolved = store'.resolved

section Runs

variable [DecidableEq κ] {session : Session κ α} {session' : Session κ β} {store : Store κ α}
  {store' : Store κ β}

theorem Session.resolve_inStep (h : session.SameShape session') (cell : Cell κ) :
    Run.InStep Store.SameShape Parser.SameShape (session.resolve cell) (session'.resolve cell) := by
  intro store store' hstores
  rw [Session.resolve_run, Session.resolve_run]
  have hnoted : Store.SameShape (store.note cell.rule) (store'.note cell.rule) :=
    ⟨hstores.cells, hstores.parsers, congrArg (cell.rule :: ·) hstores.resolved⟩
  have hfind : Option.Rel Parser.SameShape (store.find? cell) (store'.find? cell) :=
    hstores.parsers.lookup cell.id
  -- The cell is filled in both stores or in neither.
  generalize store.find? cell = found, store'.find? cell = found' at hfind
  cases hfind with
  | some hparser => exact ⟨.ok hparser, hstores⟩
  | none =>
    have hlookup := h.rules.lookup cell.rule
    generalize session.rules.lookup cell.rule = rule, session'.rules.lookup cell.rule = rule'
      at hlookup
    cases hlookup with
    | none => exact ⟨.error .unknownName, hnoted⟩
    | @some template template' htemplate =>
      -- Both build from the same number on, so the new cells have the same numbers.
      simp only
      have hbuild := build_inStep h.shared htemplate store.cells
      rw [hstores.cells] at hbuild ⊢
      generalize (build session.shared template).run store'.cells = built,
        (build session'.shared template').run store'.cells = built' at hbuild
      cases hbuild with
      | error stop => exact ⟨.error stop, hnoted⟩
      | ok hbuilt =>
        exact ⟨.ok hbuilt.1, hbuilt.2, .cons ⟨rfl, hbuilt.1⟩ hnoted.parsers, hnoted.resolved⟩

theorem Session.call_inStep (h : session.SameShape session') (input : Text) (depth : Nat)
    (cell : Cell κ) (index : Nat) :
    Run.InStep Store.SameShape (Outcome.Agrees fun _ _ => True)
      (session.call input depth cell index) (session'.call input depth cell index) := by
  induction depth generalizing cell index with
  | zero => exact fun _ _ hstores => ⟨.error .endless, hstores⟩
  | succ depth ih =>
    refine (Run.relates_inStep Store.SameShape).bind (Session.resolve_inStep h cell)
      fun parser parser' hparser => ?_
    refine (Run.relates_inStep Store.SameShape).parseWith input Value.congruent_true ?_ hparser
      index
    rintro cell _ rfl
    exact ih cell

/-- Runs of sessions of the same shape end alike, and leave stores of the same shape behind. -/
theorem Session.parseAt_inStep (h : session.SameShape session') (input : Text) (index : Nat) :
    Run.InStep Store.SameShape (Outcome.Agrees fun _ _ => True) (session.parseAt input index)
      (session'.parseAt input index) := by
  have hdepth : session.depthFor input = session'.depthFor input := by
    unfold Session.depthFor
    rw [h.rules.length_eq]
  unfold Session.parseAt
  rw [hdepth]
  refine (Run.relates_inStep Store.SameShape).parseWith input Value.congruent_true ?_ h.root index
  rintro cell _ rfl
  exact Session.call_inStep h input _ cell

/-- A run of one session, next to the same run of the other. -/
theorem Session.run_inStep (h : session.SameShape session') (hstores : store.SameShape store')
    (input : Text) (index : Nat) :
    EndsAlike (Outcome.Agrees fun _ _ => True) (session.run store input index).1
        (session'.run store' input index).1 ∧
      (session.run store input index).2.1.SameShape (session'.run store' input index).2.1 ∧
      (session.run store input index).2.2 = (session'.run store' input index).2.2 := by
  obtain ⟨hends, hafter⟩ := Session.parseAt_inStep h input index { store with resolved := [] }
    { store' with resolved := [] } ⟨hstores.cells, hstores.parsers, rfl⟩
  exact ⟨hends, hafter, congrArg List.reverse hafter.resolved⟩

theorem Session.after_sameShape (h : session.SameShape session') (hstores : store.SameShape store')
    (runs : List (Text × Nat)) :
    (session.after store runs).SameShape (session'.after store' runs) := by
  induction runs generalizing store store' with
  | nil => exact hstores
  | cons run rest ih =>
    obtain ⟨_, hafter, _⟩ := Session.run_inStep h hstores run.1 run.2
    exact ih hafter

end Runs

/-! ## §4. Grammars -/

/-- The grammar without its conversions. -/
def Grammar.unmapped (grammar : Grammar κ α) : Grammar κ Unit where
  rules := grammar.rules.map fun entry => (entry.1, entry.2.unmapped)
  shared := grammar.shared.map fun entry => (entry.1, entry.2.unmapped)
  root := grammar.root.unmapped

/-- No conversion in the grammar can refuse. -/
def Grammar.accepting (grammar : Grammar κ α) : Bool :=
  grammar.rules.all (fun entry => entry.2.accepting) &&
    grammar.shared.all (fun entry => entry.2.accepting) && grammar.root.accepting

theorem sameEntries_unmapped {name : Type} {entries : List (name × Parser ρ α)}
    (h : entries.all (fun entry => entry.2.accepting) = true) :
    SameEntries entries (entries.map fun entry => (entry.1, entry.2.unmapped)) := by
  unfold SameEntries
  rw [List.forall₂_map_right_iff, List.forall₂_same]
  intro entry hmem
  exact ⟨rfl, entry.2.sameShape_unmapped (List.all_eq_true.1 h entry hmem)⟩

/-- A grammar without refusing conversions starts as it does without any. -/
theorem Grammar.start_unmapped {grammar : Grammar κ α} (h : grammar.accepting = true) :
    EndsAlike (fun started started' => Session.SameShape started.1 started'.1 ∧
      Store.SameShape started.2 started'.2) grammar.start grammar.unmapped.start := by
  obtain ⟨h, hroot⟩ := Bool.and_eq_true_iff.1 h
  obtain ⟨hrules, hshared⟩ := Bool.and_eq_true_iff.1 h
  have hconstruct : Construct.InStep
      (fun parts parts' => SameEntries parts.1 parts'.1 ∧ Parser.SameShape parts.2 parts'.2)
      grammar.construct grammar.unmapped.construct := by
    refine Construct.relates_inStep.bind (buildShared_inStep .nil (sameEntries_unmapped hshared))
      fun shared shared' hbuilt => ?_
    refine Construct.relates_inStep.bind
      (build_inStep hbuilt (grammar.root.sameShape_unmapped hroot)) fun root root' hroot => ?_
    exact Construct.relates_inStep.pure ⟨hbuilt, hroot⟩
  have hzero := hconstruct 0
  rw [Grammar.start_eq_map, Grammar.start_eq_map]
  generalize grammar.construct.run 0 = built, grammar.unmapped.construct.run 0 = built' at hzero
  cases hzero with
  | error stop => exact .error stop
  | ok hbuilt =>
    obtain ⟨⟨hshared, hroot⟩, hcells⟩ := hbuilt
    exact .ok ⟨⟨sameEntries_unmapped hrules, hshared, hroot⟩, hcells, .nil, rfl⟩

theorem Grammar.exists_unmapped_of_start {grammar : Grammar κ α} {session : Session κ α}
    {store : Store κ α} (h : grammar.accepting = true)
    (hstart : grammar.start = .ok (session, store)) :
    ∃ plain plainStore, grammar.unmapped.start = .ok (plain, plainStore) ∧
      session.SameShape plain ∧ store.SameShape plainStore := by
  have hstarts := Grammar.start_unmapped h
  rw [hstart] at hstarts
  generalize grammar.unmapped.start = started at hstarts
  cases hstarts with
  | @ok _ started hshape =>
    obtain ⟨plain, plainStore⟩ := started
    exact ⟨plain, plainStore, rfl, hshape.1, hshape.2⟩

theorem Grammar.start_eq_error_iff_unmapped {grammar : Grammar κ α} (h : grammar.accepting = true)
    {stop : Stop} : grammar.start = .error stop ↔ grammar.unmapped.start = .error stop := by
  have hstarts := Grammar.start_unmapped h
  generalize grammar.start = started, grammar.unmapped.start = started' at hstarts
  cases hstarts with
  | ok _ => exact ⟨nofun, nofun⟩
  | error other =>
    constructor
    · intro heq
      cases heq
      rfl
    · intro heq
      cases heq
      rfl

/-- Stores of the same shape hold parsers for the same cells. -/
theorem Store.SameShape.keys_eq {store : Store κ α} {store' : Store κ β}
    (h : store.SameShape store') : store.parsers.map Prod.fst = store'.parsers.map Prod.fst := by
  have hparsers : SameEntries store.parsers store'.parsers := h.parsers
  generalize store.parsers = entries, store'.parsers = entries' at hparsers ⊢
  induction hparsers with
  | nil => rfl
  | cons hentry _ ih => simp only [List.map_cons, hentry.1, ih]

/-- Results that agree with the same one agree. -/
theorem EndsAlike.of_common {result : Except Stop (Outcome β)} {result' : Except Stop (Outcome γ)}
    {common : Except Stop (Outcome δ)}
    (h : EndsAlike (Outcome.Agrees fun _ _ => True) result common)
    (h' : EndsAlike (Outcome.Agrees fun _ _ => True) result' common) :
    EndsAlike (Outcome.Agrees fun _ _ => True) result result' := by
  cases h with
  | error stop =>
    cases h'
    exact .error stop
  | ok hagrees =>
    cases h' with
    | ok hagrees' =>
      cases hagrees with
      | success text index _ =>
        cases hagrees'
        exact .ok (.success text index trivial)
      | failure failure =>
        cases hagrees'
        exact .ok (.failure failure)

/-- **Recognition does not depend on values.** Take two grammars in which no conversion can refuse
and which are the same without their conversions; the atoms of their values need not be the same.
They start alike, and after any runs a run of the one and the same run of the other end alike: both
succeed with the same text at the same index, or both fail with the same kind, index and message,
or both stop for the same reason. On the way both build the same rules in the same order, for the
same cells. -/
theorem Grammar.values_irrelevant [DecidableEq κ] {grammar : Grammar κ α} {grammar' : Grammar κ β}
    (h : grammar.accepting = true) (h' : grammar'.accepting = true)
    (hsame : grammar.unmapped = grammar'.unmapped) :
    (∀ stop, grammar.start = .error stop ↔ grammar'.start = .error stop) ∧
      ∀ session store session' store', grammar.start = .ok (session, store) →
        grammar'.start = .ok (session', store') →
        session.root.render = session'.root.render ∧
          ∀ (runs : List (Text × Nat)) (input : Text) (index : Nat),
            EndsAlike (Outcome.Agrees fun _ _ => True)
                (session.run (session.after store runs) input index).1
                (session'.run (session'.after store' runs) input index).1 ∧
              (session.run (session.after store runs) input index).2.2 =
                (session'.run (session'.after store' runs) input index).2.2 ∧
              (session.run (session.after store runs) input index).2.1.parsers.map Prod.fst =
                (session'.run (session'.after store' runs) input index).2.1.parsers.map
                  Prod.fst := by
  refine ⟨fun stop => ?_, fun session store session' store' hstart hstart' => ?_⟩
  · rw [Grammar.start_eq_error_iff_unmapped h, Grammar.start_eq_error_iff_unmapped h', hsame]
  -- Each of the two is compared with the grammar that both are without their conversions.
  obtain ⟨plain, plainStore, hplain, hsession, hstore⟩ := Grammar.exists_unmapped_of_start h hstart
  obtain ⟨plain', plainStore', hplain', hsession', hstore'⟩ :=
    Grammar.exists_unmapped_of_start h' hstart'
  rw [hsame, hplain'] at hplain
  obtain ⟨rfl, rfl⟩ := Prod.mk.inj (Except.ok.inj hplain)
  refine ⟨hsession.root.render_eq.trans hsession'.root.render_eq.symm,
    fun runs input index => ?_⟩
  obtain ⟨hends, hafter, hresolved⟩ :=
    Session.run_inStep hsession (Session.after_sameShape hsession hstore runs) input index
  obtain ⟨hends', hafter', hresolved'⟩ :=
    Session.run_inStep hsession' (Session.after_sameShape hsession' hstore' runs) input index
  exact ⟨hends.of_common hends', hresolved.trans hresolved'.symm,
    hafter.keys_eq.trans hafter'.keys_eq.symm⟩

/-- Parentheses whose rule is converted to a number. -/
def numberedParentheses : Grammar Unit Nat where
  rules := [((), .mapped (.repetition (.sequence (.literal ['('])
    (.sequence (.deferred (.rule ())) (.literal [')']))) ⟨0, none⟩) fun _ => .atom 7)]
  root := .mapped (.anchored (.deferred (.rule ()))) fun value => .pair value value

/-- The session that they start with. -/
def numberedSession : Session Unit Nat where
  rules := numberedParentheses.rules
  shared := []
  root := .mapped (.anchored (.deferred ⟨0, ()⟩)) fun value => .pair value value

/-- With numbers or without, behind the same run. -/
theorem values_irrelevant_for_parentheses :
    numberedParentheses.accepting = true ∧ parentheses.accepting = true ∧
      numberedParentheses.unmapped = parentheses.unmapped ∧
      numberedParentheses.start = .ok (numberedSession, ⟨1, [], []⟩) ∧
      (numberedSession.run (numberedSession.after ⟨1, [], []⟩ [([')'], 0)]) ['(', ')'] 0).1 =
        .ok (.success ⟨['(', ')'], 0, .pair (.atom 7) (.atom 7)⟩) ∧
      (numberedSession.run (numberedSession.after ⟨1, [], []⟩ [([')'], 0)]) ['(', ')'] 0).2.2 =
        [()] ∧
      ∃ value, (parenthesesSession.run (parenthesesSession.after ⟨1, [], []⟩ [([')'], 0)])
        ['(', ')'] 0).1 = .ok (.success ⟨['(', ')'], 0, value⟩) := by
  have haccepting : numberedParentheses.accepting = true := rfl
  have haccepting' : parentheses.accepting = true := rfl
  have hsame : numberedParentheses.unmapped = parentheses.unmapped := rfl
  have hstart : numberedParentheses.start = .ok (numberedSession, ⟨1, [], []⟩) := rfl
  have hstart' : parentheses.start = .ok (parenthesesSession, ⟨1, [], []⟩) := rfl
  obtain ⟨_, hruns⟩ := Grammar.values_irrelevant haccepting haccepting' hsame
  obtain ⟨_, hruns⟩ := hruns _ _ _ _ hstart hstart'
  obtain ⟨hends, hresolved, _⟩ := hruns [([')'], 0)] ['(', ')'] 0
  have hrun : (numberedSession.run (numberedSession.after ⟨1, [], []⟩ [([')'], 0)])
      ['(', ')'] 0).1 = .ok (.success ⟨['(', ')'], 0, .pair (.atom 7) (.atom 7)⟩) := rfl
  have hbuilt : (parenthesesSession.run (parenthesesSession.after ⟨1, [], []⟩ [([')'], 0)])
      ['(', ')'] 0).2.2 = [()] := rfl
  refine ⟨haccepting, haccepting', hsame, hstart, hrun, hresolved.trans hbuilt, ?_⟩
  rw [hrun] at hends
  generalize (parenthesesSession.run _ _ _).1 = result at hends
  cases hends with
  | ok hagrees =>
    cases hagrees with
    | success text index _ => exact ⟨_, rfl⟩

end Backtrack
