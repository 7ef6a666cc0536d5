import Backtrack.Proofs.Parser.Names
import Mathlib.Data.List.Forall2

/-! # Two parsers in step

    Two parsers that differ only in the names they mention and in what they
    make of their matches go through the same steps, each in a monad of its
    own. Any relation between the steps of the two monads that `pure` and
    `bind` keep therefore relates the two runs as soon as it relates their
    calls.

    * `Parser.Parallel`: parsers of the same shape.
    * `Relates.parseWith`: their runs. -/

namespace Backtrack

variable {m n : Type → Type} [Monad m] [Monad n] {ρ σ α β γ δ : Type}

/-! ## §1. Related answers -/

/-- The same outcome but for the values, which are related. -/
inductive Outcome.Agrees (r : γ → δ → Prop) : Outcome γ → Outcome δ → Prop where
  | success (text : Text) (index : Nat) {value : γ} {value' : δ} :
      r value value' → Agrees r (.success ⟨text, index, value⟩) (.success ⟨text, index, value'⟩)
  | failure (failure : Failure) : Agrees r (.failure failure) (.failure failure)

theorem Outcome.agrees_eq_iff {outcome outcome' : Outcome γ} :
    Outcome.Agrees Eq outcome outcome' ↔ outcome = outcome' := by
  constructor
  · rintro (⟨text, index, rfl⟩ | failure)
    · rfl
    · rfl
  · rintro rfl
    cases outcome with
    | success success => exact .success success.text success.index rfl
    | failure failure => exact .failure failure

/-- The same rounds but for the values, which are related one by one. -/
structure Rounds.Agrees (r : γ → δ → Prop) (result : Rounds γ) (result' : Rounds δ) : Prop where
  values : List.Forall₂ r result.values result'.values
  stop : result.stop = result'.stop

/-- The relation holds of what a combinator makes of related values. -/
structure Value.Congruent (r : Value α → Value β → Prop) : Prop where
  text : ∀ text, r (.text text) (.text text)
  pair : ∀ {first next first' next'}, r first first' → r next next' →
    r (.pair first next) (.pair first' next')
  list : ∀ {items items'}, List.Forall₂ r items items' → r (.list items) (.list items')
  none : r .none .none
  some : ∀ {value value'}, r value value' → r (.some value) (.some value')
  unit : r .unit .unit

theorem Value.congruent_eq : Value.Congruent (Eq : Value α → Value α → Prop) where
  text _ := rfl
  pair := by
    rintro first next _ _ rfl rfl
    rfl
  list h := by
    rw [List.forall₂_eq_eq_eq] at h
    rw [h]
  none := rfl
  some := by
    rintro value _ rfl
    rfl
  unit := rfl

theorem Value.congruent_true : Value.Congruent (fun (_ : Value α) (_ : Value β) => True) where
  text _ := trivial
  pair _ _ := trivial
  list _ := trivial
  none := trivial
  some _ := trivial
  unit := trivial

/-! ## §2. Combinators -/

section Combinators

variable {r : Value α → Value β → Prop} (hr : Value.Congruent r) (input : Text) (index : Nat)
include hr

theorem matchLiteral_agrees (text : Text) :
    Outcome.Agrees r (matchLiteral input text index) (matchLiteral input text index) := by
  unfold matchLiteral
  cases (input.dropBytes? index).bind text.after? with
  | some _ => exact .success text index (hr.text text)
  | none => exact .failure _

theorem matchPattern_agrees (expression : Pattern) :
    Outcome.Agrees r (matchPattern input expression index)
      (matchPattern input expression index) := by
  unfold matchPattern
  cases expression.findAt input index with
  | some text => exact .success text index (hr.text text)
  | none => exact .failure _

theorem joinSequence_agrees {text : Text} {start : Nat} {text' : Text} {start' : Nat}
    {first next : Value α} {first' next' : Value β} (hfirst : r first first')
    (hnext : r next next') :
    Outcome.Agrees r
      (joinSequence input index ⟨text, start, first⟩ ⟨text', start', next⟩)
      (joinSequence input index ⟨text, start, first'⟩ ⟨text', start', next'⟩) := by
  unfold joinSequence Success.stop Success.size
  cases input.slice? index (start' + text'.size) with
  | some slice => exact .success slice index (hr.pair hfirst hnext)
  | none => exact .failure _

theorem finishRounds_agrees {body : Parser ρ α} {body' : Parser σ β}
    (hrender : body.render = body'.render) (bounds : Bounds) {result : Rounds (Value α)}
    {result' : Rounds (Value β)} (h : Rounds.Agrees r result result') :
    Outcome.Agrees r (finishRounds input body bounds index result)
      (finishRounds input body' bounds index result') := by
  unfold finishRounds
  rw [hrender, h.stop, h.values.length_eq]
  split
  · cases input.slice? index result'.stop with
    | some slice => exact .success slice index (hr.list h.values)
    | none => exact .failure _
  · exact .failure _

theorem orNothing_agrees {outcome : Outcome (Value α)} {outcome' : Outcome (Value β)}
    (h : Outcome.Agrees r outcome outcome') :
    Outcome.Agrees r (orNothing input index outcome) (orNothing input index outcome') := by
  cases h with
  | success text start hvalue => exact .success text start (hr.some hvalue)
  | failure failure =>
    simp only [orNothing]
    split
    · exact .success [] index hr.none
    · exact .failure _

theorem inverted_agrees {body : Parser ρ α} {body' : Parser σ β}
    (hrender : body.render = body'.render) {outcome : Outcome (Value α)}
    {outcome' : Outcome (Value β)} (h : Outcome.Agrees r outcome outcome') :
    Outcome.Agrees r (inverted input body index outcome)
      (inverted input body' index outcome') := by
  cases h with
  | success text start hvalue =>
    simp only [inverted, hrender]
    exact .failure _
  | failure failure =>
    simp only [inverted]
    split
    · exact .success [] index hr.unit
    · exact .failure _

omit hr in
theorem atEnd_agrees {outcome : Outcome (Value α)} {outcome' : Outcome (Value β)}
    (h : Outcome.Agrees r outcome outcome') :
    Outcome.Agrees r (atEnd input outcome) (atEnd input outcome') := by
  cases h with
  | success text start hvalue =>
    simp only [atEnd, Success.stop, Success.size]
    rcases input.dropBytes? (start + text.size) with _ | _ | ⟨found, rest⟩
    · exact .failure _
    · exact .success text start hvalue
    · exact .failure _
  | failure failure => exact .failure failure

omit hr in
theorem mapOutcome_agrees {convert : Value α → Value α} {convert' : Value β → Value β}
    (hconvert : ∀ value value', r value value' → r (convert value) (convert' value'))
    {outcome : Outcome (Value α)} {outcome' : Outcome (Value β)}
    (h : Outcome.Agrees r outcome outcome') :
    Outcome.Agrees r (mapOutcome convert outcome) (mapOutcome convert' outcome') := by
  cases h with
  | success text start hvalue => exact .success text start (hconvert _ _ hvalue)
  | failure failure => exact .failure failure

/-- Conversions that can refuse are related if both refuse for the same reason or both go through
and give related values. -/
def ConvertsAlike (r : Value α → Value β → Prop) (result : Except String (Value α))
    (result' : Except String (Value β)) : Prop :=
  (∃ error, result = .error error ∧ result' = .error error) ∨
    ∃ value value', result = .ok value ∧ result' = .ok value' ∧ r value value'

omit hr in
theorem convertOutcome_agrees {convert : Value α → Except String (Value α)}
    {convert' : Value β → Except String (Value β)}
    (hconvert : ∀ value value', r value value' →
      ConvertsAlike r (convert value) (convert' value'))
    {body : Parser ρ α} {body' : Parser σ β} (hrender : body.render = body'.render)
    {outcome : Outcome (Value α)} {outcome' : Outcome (Value β)}
    (h : Outcome.Agrees r outcome outcome') :
    Outcome.Agrees r (convertOutcome body convert index outcome)
      (convertOutcome body' convert' index outcome') := by
  cases h with
  | @success text start value value' hvalue =>
    unfold convertOutcome
    rcases hconvert value value' hvalue with ⟨error, herror, herror'⟩ | ⟨_, _, hok, hok', hresult⟩
    · simp only [herror, herror', hrender]
      exact .failure _
    · simp only [hok, hok']
      exact .success text start hresult
  | failure failure => exact .failure failure

end Combinators

/-! ## §3. Parsers of one shape -/

/-- Parsers of the same shape: related names stand in the same places, and the conversions turn
related values into related ones. On the left there may be more conversions than on the right, if
they do not lead out of the relation. -/
inductive Parser.Parallel (names : ρ → σ → Prop) (r : Value α → Value β → Prop) :
    Parser ρ α → Parser σ β → Prop where
  | literal (text : Text) : Parallel names r (.literal text) (.literal text)
  | pattern (expression : Pattern) : Parallel names r (.pattern expression) (.pattern expression)
  | sequence {first next : Parser ρ α} {first' next' : Parser σ β} :
      Parallel names r first first' → Parallel names r next next' →
      Parallel names r (.sequence first next) (.sequence first' next')
  | choice {alternatives : List (Parser ρ α)} {alternatives' : List (Parser σ β)} :
      alternatives.length = alternatives'.length →
      (∀ pair ∈ alternatives.zip alternatives', Parallel names r pair.1 pair.2) →
      Parallel names r (.choice alternatives) (.choice alternatives')
  | repetition {body : Parser ρ α} {body' : Parser σ β} (bounds : Bounds) :
      Parallel names r body body' →
      Parallel names r (.repetition body bounds) (.repetition body' bounds)
  | separated {body separator : Parser ρ α} {body' separator' : Parser σ β} (bounds : Bounds) :
      Parallel names r body body' → Parallel names r separator separator' →
      Parallel names r (.separated body separator bounds) (.separated body' separator' bounds)
  | option {body : Parser ρ α} {body' : Parser σ β} :
      Parallel names r body body' → Parallel names r (.option body) (.option body')
  | negation {body : Parser ρ α} {body' : Parser σ β} :
      Parallel names r body body' → Parallel names r (.negation body) (.negation body')
  | anchored {body : Parser ρ α} {body' : Parser σ β} :
      Parallel names r body body' → Parallel names r (.anchored body) (.anchored body')
  | mapped {body : Parser ρ α} {body' : Parser σ β} {convert : Value α → Value α}
      {convert' : Value β → Value β} :
      Parallel names r body body' →
      (∀ value value', r value value' → r (convert value) (convert' value')) →
      Parallel names r (.mapped body convert) (.mapped body' convert')
  | mappedLeft {body : Parser ρ α} {parser : Parser σ β} {convert : Value α → Value α} :
      Parallel names r body parser →
      (∀ value value', r value value' → r (convert value) value') →
      Parallel names r (.mapped body convert) parser
  | converted {body : Parser ρ α} {body' : Parser σ β}
      {convert : Value α → Except String (Value α)}
      {convert' : Value β → Except String (Value β)} :
      Parallel names r body body' →
      (∀ value value', r value value' → ConvertsAlike r (convert value) (convert' value')) →
      Parallel names r (.converted body convert) (.converted body' convert')
  | deferred {name : ρ} {name' : σ} : names name name' →
      Parallel names r (.deferred name) (.deferred name')

namespace Parser

variable {names : ρ → σ → Prop} {r : Value α → Value β → Prop} {parser : Parser ρ α}
  {parser' : Parser σ β}

theorem renderAll_eq_of_zip {parsers : List (Parser ρ α)} {parsers' : List (Parser σ β)}
    (hlength : parsers.length = parsers'.length)
    (h : ∀ pair ∈ parsers.zip parsers', pair.1.render = pair.2.render) :
    renderAll parsers = renderAll parsers' := by
  induction parsers generalizing parsers' with
  | nil =>
    cases parsers' with
    | nil => rfl
    | cons _ _ => cases hlength
  | cons first rest ih =>
    cases parsers' with
    | nil => cases hlength
    | cons first' rest' =>
      obtain ⟨hfirst, hrest⟩ := List.forall_mem_cons.1 h
      simp only [renderAll, hfirst, ih (Nat.succ.inj hlength) hrest]

/-- The written form shows neither names nor conversions. -/
theorem Parallel.render_eq (h : Parallel names r parser parser') :
    parser.render = parser'.render := by
  induction h with
  | literal text => rfl
  | pattern expression => rfl
  | sequence _ _ hfirst hnext => simp only [render, hfirst, hnext]
  | choice hlength _ ih => simp only [render, renderAll_eq_of_zip hlength ih]
  | repetition bounds _ ih => simp only [render, ih]
  | separated bounds _ _ hbody hseparator => simp only [render, hbody, hseparator]
  | option _ ih => simp only [render, ih]
  | negation _ ih => simp only [render, ih]
  | anchored _ ih => simp only [render, ih]
  | mapped _ _ ih => simp only [render, ih]
  | mappedLeft _ _ ih => simp only [render, ih]
  | converted _ _ ih => simp only [render, ih]
  | deferred _ => rfl

theorem noneMatched_eq_of_zip {parsers : List (Parser ρ α)} {parsers' : List (Parser σ β)}
    (hlength : parsers.length = parsers'.length)
    (h : ∀ pair ∈ parsers.zip parsers', Parallel names r pair.1 pair.2) (index : Nat)
    (termination : Option Failure) :
    noneMatched parsers index termination = noneMatched parsers' index termination := by
  have hrender := renderAll_eq_of_zip hlength fun pair hmem => (h pair hmem).render_eq
  cases termination with
  | none => simp only [noneMatched, hrender]
  | some failure => rfl

/-- A choice has the shape of one whose alternatives are made of its own. -/
theorem parallel_choice_map (f : Parser ρ α → Parser σ β) {alternatives : List (Parser ρ α)}
    (h : ∀ parser ∈ alternatives, Parallel names r parser (f parser)) :
    Parallel names r (.choice alternatives) (.choice (alternatives.map f)) := by
  refine .choice (by rw [List.length_map]) fun pair hmem => ?_
  nth_rewrite 1 [← List.map_id alternatives] at hmem
  rw [List.zip_map'] at hmem
  obtain ⟨parser, hparser, rfl⟩ := List.mem_map.1 hmem
  exact h parser hparser

/-- A parser has the shape of the same parser over other names. -/
theorem parallel_rename {names : ρ → σ → Prop} (f : ρ → σ) (parser : Parser ρ α)
    (hnames : ∀ name, parser.Mentions name → names name (f name)) :
    Parallel names Eq parser (parser.rename f) := by
  induction parser using Parser.induction with
  | literal text => exact .literal text
  | pattern expression => exact .pattern expression
  | sequence first next hfirst hnext =>
    exact .sequence (hfirst fun name hname => hnames name (.first hname))
      (hnext fun name hname => hnames name (.next hname))
  | choice alternatives ih =>
    simp only [rename, renameAll_eq_map]
    exact parallel_choice_map (rename f) fun parser hmem =>
      ih parser hmem fun name hname => hnames name (.alternative hmem hname)
  | repetition body bounds ih =>
    exact .repetition bounds (ih fun name hname => hnames name (.repetition hname))
  | separated body separator bounds hbody hseparator =>
    exact .separated bounds (hbody fun name hname => hnames name (.body hname))
      (hseparator fun name hname => hnames name (.separator hname))
  | option body ih => exact .option (ih fun name hname => hnames name (.option hname))
  | negation body ih => exact .negation (ih fun name hname => hnames name (.negation hname))
  | anchored body ih => exact .anchored (ih fun name hname => hnames name (.anchored hname))
  | mapped body convert ih =>
    refine .mapped (ih fun name hname => hnames name (.mapped hname)) ?_
    rintro value _ rfl
    rfl
  | converted body convert ih =>
    refine .converted (ih fun name hname => hnames name (.converted hname)) ?_
    rintro value _ rfl
    cases hconvert : convert value with
    | error error => exact .inl ⟨error, rfl, rfl⟩
    | ok result => exact .inr ⟨result, result, rfl, rfl, rfl⟩
  | deferred name => exact .deferred (hnames name (.deferred name))

end Parser

/-! ## §4. Runs of one shape -/

/-- The relation carries over to steps that are made of related steps, each in its monad. -/
structure Relates (rel : ∀ γ δ : Type, (γ → δ → Prop) → m γ → n δ → Prop) : Prop where
  pure : ∀ {γ δ : Type} {r : γ → δ → Prop} {value : γ} {value' : δ}, r value value' →
    rel γ δ r (pure value) (pure value')
  bind : ∀ {γ δ ε ζ : Type} {r : γ → δ → Prop} {s : ε → ζ → Prop} {step : m γ} {step' : n δ}
    {next : γ → m ε} {next' : δ → n ζ}, rel γ δ r step step' →
    (∀ value value', r value value' → rel ε ζ s (next value) (next' value')) →
    rel ε ζ s (step >>= next) (step' >>= next')

namespace Relates

variable {rel : ∀ γ δ : Type, (γ → δ → Prop) → m γ → n δ → Prop}

/-- Two steps that go on in one way where they fail and in another where they succeed. -/
theorem bind_outcome (h : Relates rel) {ε ζ : Type} {r : γ → δ → Prop} {s : ε → ζ → Prop}
    {step : m (Outcome γ)} {step' : n (Outcome δ)} {next : Outcome γ → m ε}
    {next' : Outcome δ → n ζ} (hstep : rel _ _ (Outcome.Agrees r) step step')
    (hfailure : ∀ failure, rel _ _ s (next (.failure failure)) (next' (.failure failure)))
    (hsuccess : ∀ text index value value', r value value' →
      rel _ _ s (next (.success ⟨text, index, value⟩)) (next' (.success ⟨text, index, value'⟩))) :
    rel _ _ s (step >>= next) (step' >>= next') := by
  refine h.bind hstep fun outcome outcome' hagrees => ?_
  cases hagrees with
  | success text index hvalue => exact hsuccess text index _ _ hvalue
  | failure failure => exact hfailure failure

omit [Monad m] [Monad n] in
/-- Two steps that branch on the same condition. -/
theorem rel_ite {p q : Prop} [Decidable p] [Decidable q] {r : γ → δ → Prop} {step other : m γ}
    {step' other' : n δ} (hpq : p ↔ q) (hstep : rel γ δ r step step')
    (hother : rel γ δ r other other') :
    rel γ δ r (if p then step else other) (if q then step' else other') := by
  by_cases hp : p
  · rw [if_pos hp, if_pos (hpq.1 hp)]
    exact hstep
  · rw [if_neg hp, if_neg fun hq => hp (hpq.2 hq)]
    exact hother

section Rounds

variable {r : γ → δ → Prop} {step separator : Nat → m (Outcome γ)}
  {step' separator' : Nat → n (Outcome δ)} {values : List γ} {values' : List δ}

theorem rounds (h : Relates rel) (bounds : Bounds)
    (hstep : ∀ position, rel _ _ (Outcome.Agrees r) (step position) (step' position))
    (limit position count : Nat) (hvalues : List.Forall₂ r values values') :
    rel _ _ (Rounds.Agrees r) (rounds step bounds limit position count values)
      (rounds step' bounds limit position count values') := by
  induction limit generalizing position count values values' with
  | zero => exact h.pure ⟨List.rel_reverse hvalues, rfl⟩
  | succ limit ih =>
    -- A round that matches goes on with one more pair of related values.
    unfold Backtrack.rounds
    split
    · refine h.bind_outcome (hstep position)
        (fun failure => h.pure ⟨List.rel_reverse hvalues, rfl⟩)
        fun text index value value' hvalue => ?_
      have hmore : List.Forall₂ r (value :: values) (value' :: values') := .cons hvalue hvalues
      exact rel_ite Iff.rfl (h.pure ⟨List.rel_reverse hmore, rfl⟩) (ih _ _ hmore)
    · exact h.pure ⟨List.rel_reverse hvalues, rfl⟩

theorem separatedRounds (h : Relates rel) (bounds : Bounds)
    (hstep : ∀ position, rel _ _ (Outcome.Agrees r) (step position) (step' position))
    (hseparator : ∀ position,
      rel _ _ (Outcome.Agrees r) (separator position) (separator' position))
    (limit position count : Nat) (hvalues : List.Forall₂ r values values') :
    rel _ _ (Rounds.Agrees r) (separatedRounds step separator bounds limit position count values)
      (separatedRounds step' separator' bounds limit position count values') := by
  induction limit generalizing position count values values' with
  | zero => exact h.pure ⟨List.rel_reverse hvalues, rfl⟩
  | succ limit ih =>
    have hempty : values.isEmpty = values'.isEmpty := by
      cases hvalues with
      | nil => rfl
      | cons _ _ => rfl
    unfold Backtrack.separatedRounds
    rw [hempty]
    split
    · -- Both separators match up to the same place, or neither matches.
      refine h.bind (r := Eq) ?_ fun behind _ hbehind => ?_
      · split
        · exact h.pure rfl
        · exact h.bind_outcome (hseparator position) (fun _ => h.pure rfl)
            fun _ _ _ _ _ => h.pure rfl
      · subst hbehind
        cases behind with
        | none => exact h.pure ⟨List.rel_reverse hvalues, rfl⟩
        | some behind =>
          refine h.bind_outcome (hstep behind)
            (fun failure => h.pure ⟨List.rel_reverse hvalues, rfl⟩)
            fun text index value value' hvalue => ?_
          have hmore : List.Forall₂ r (value :: values) (value' :: values') :=
            .cons hvalue hvalues
          exact rel_ite Iff.rfl (h.pure ⟨List.rel_reverse hmore, rfl⟩) (ih _ _ hmore)
    · exact h.pure ⟨List.rel_reverse hvalues, rfl⟩

end Rounds

section Parsers

variable {names : ρ → σ → Prop} {r : Value α → Value β → Prop} (input : Text)
  {call : ρ → Nat → m (Outcome (Value α))} {call' : σ → Nat → n (Outcome (Value β))}

theorem chooseWith (h : Relates rel) {all : List (Parser ρ α)} {all' : List (Parser σ β)}
    {index : Nat}
    (hnone : ∀ termination,
      noneMatched all index termination = noneMatched all' index termination)
    {rest : List (Parser ρ α)} {rest' : List (Parser σ β)} (hlength : rest.length = rest'.length)
    (hrest : ∀ pair ∈ rest.zip rest', ∀ index, rel _ _ (Outcome.Agrees r)
      (pair.1.parseWith call input index) (pair.2.parseWith call' input index))
    (termination : Option Failure) :
    rel _ _ (Outcome.Agrees r) (Parser.chooseWith call input all termination rest index)
      (Parser.chooseWith call' input all' termination rest' index) := by
  induction rest generalizing rest' termination with
  | nil =>
    cases rest' with
    | nil =>
      simp only [Parser.chooseWith, hnone]
      exact h.pure (.failure _)
    | cons _ _ => cases hlength
  | cons first rest ih =>
    cases rest' with
    | nil => cases hlength
    | cons first' rest' =>
      -- Both alternatives fail in the same way, so the same failure is promoted.
      obtain ⟨hfirst, hrest⟩ := List.forall_mem_cons.1 hrest
      simp only [Parser.chooseWith]
      exact h.bind_outcome (hfirst index)
        (fun failure => ih (Nat.succ.inj hlength) hrest _)
        fun text index value value' hvalue => h.pure (.success text index hvalue)

/-- **Parsers of one shape run alike, if their calls do.** -/
theorem parseWith [LawfulMonad n] (h : Relates rel) (hr : Value.Congruent r)
    (hcall : ∀ name name', names name name' → ∀ index,
      rel _ _ (Outcome.Agrees r) (call name index) (call' name' index))
    {parser : Parser ρ α} {parser' : Parser σ β} (hparallel : parser.Parallel names r parser')
    (index : Nat) :
    rel _ _ (Outcome.Agrees r) (parser.parseWith call input index)
      (parser'.parseWith call' input index) := by
  -- Along the common shape: each step of one run has its step in the other.
  induction hparallel generalizing index with
  | literal text => exact h.pure (matchLiteral_agrees hr input index text)
  | pattern expression => exact h.pure (matchPattern_agrees hr input index expression)
  | sequence _ _ hfirst hnext =>
    refine h.bind_outcome (hfirst index) (fun failure => h.pure (.failure failure))
      fun text start value value' hvalue => ?_
    refine h.bind_outcome (hnext _) (fun failure => h.pure (.failure failure))
      fun text' start' next next' hnext => ?_
    exact h.pure (joinSequence_agrees hr input index hvalue hnext)
  | choice hlength halternatives ih =>
    exact h.chooseWith input (Parser.noneMatched_eq_of_zip hlength halternatives index) hlength
      ih none
  | repetition bounds hbody ih =>
    exact h.bind (h.rounds bounds ih _ _ _ .nil) fun result result' hresult =>
      h.pure (finishRounds_agrees hr input index hbody.render_eq bounds hresult)
  | separated bounds hbody _ ihbody ihseparator =>
    exact h.bind (h.separatedRounds bounds ihbody ihseparator _ _ _ .nil)
      fun result result' hresult =>
        h.pure (finishRounds_agrees hr input index hbody.render_eq bounds hresult)
  | option _ ih =>
    exact h.bind (ih index) fun _ _ hagrees => h.pure (orNothing_agrees hr input index hagrees)
  | negation hbody ih =>
    exact h.bind (ih index) fun _ _ hagrees =>
      h.pure (inverted_agrees hr input index hbody.render_eq hagrees)
  | anchored _ ih =>
    exact h.bind (ih index) fun _ _ hagrees => h.pure (atEnd_agrees input hagrees)
  | mapped _ hconvert ih =>
    exact h.bind (ih index) fun _ _ hagrees => h.pure (mapOutcome_agrees hconvert hagrees)
  | @mappedLeft body parser convert _ hconvert ih =>
    -- The conversion has no counterpart, so the other run does nothing in its place.
    rw [← bind_pure (parser.parseWith call' input index)]
    refine h.bind (ih index) fun outcome outcome' hagrees => h.pure ?_
    cases hagrees with
    | success text start hvalue => exact .success text start (hconvert _ _ hvalue)
    | failure failure => exact .failure failure
  | converted hbody hconvert ih =>
    exact h.bind (ih index) fun _ _ hagrees =>
      h.pure (convertOutcome_agrees index hconvert hbody.render_eq hagrees)
  | deferred hname => exact hcall _ _ hname index

end Parsers

end Relates

end Backtrack
