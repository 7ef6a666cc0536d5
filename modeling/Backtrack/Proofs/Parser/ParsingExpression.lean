import Backtrack.Proofs.Parser.Reading
import Backtrack.Proofs.Parser.Subtask

/-! # Parsing expressions

    Texts, sequences, choices, repetitions without bounds, options, negations
    and names make the parsing expressions of Ford's grammars. Their meaning
    is given here by rules that know no values and no rounds: an expression
    *consumes* the input from one place to another, or it *fails*.

    A repetition whose body matches nothing has no such derivation, because
    the rule for one more round would have to be applied without end. The
    parser ends there. That is the one difference, and `Task.Progresses`
    rules it out.

    * `Peg.Derives.evaluates`: what is derived is what the parser comes to.
    * `Peg.explains_of_evaluates`: and the other way around, where every body
      of a repetition that matches on the way matches something.
    * `Peg.Derives.progresses`: which is so wherever there is a derivation. -/

namespace Backtrack

variable {ρ σ α : Type}

/-! ## §1. Expressions and what they come to -/

/-- What an expression comes to. -/
inductive Verdict where
  /-- It matches, up to this offset. -/
  | consumes (stop : Nat)
  | fails
  deriving DecidableEq, Repr

/-- What an outcome says without its text and its value. -/
def Outcome.verdict {β : Type} : Outcome β → Verdict
  | .success s => .consumes s.stop
  | .failure _ => .fails

/-- The parser is a parsing expression. -/
inductive Parser.IsPeg : Parser ρ α → Prop where
  | literal (text : Text) : IsPeg (.literal text)
  | sequence {first next : Parser ρ α} : IsPeg first → IsPeg next → IsPeg (.sequence first next)
  | choice {alternatives : List (Parser ρ α)} :
      (∀ parser ∈ alternatives, IsPeg parser) → IsPeg (.choice alternatives)
  | repetition {body : Parser ρ α} : IsPeg body → IsPeg (.repetition body .many)
  | option {body : Parser ρ α} : IsPeg body → IsPeg (.option body)
  | negation {body : Parser ρ α} : IsPeg body → IsPeg (.negation body)
  | deferred (name : ρ) : IsPeg (.deferred name)

/-- Other names make no difference. -/
theorem Parser.IsPeg.rename {parser : Parser ρ α} (f : ρ → σ) (h : parser.IsPeg) :
    (parser.rename f).IsPeg := by
  induction h with
  | literal text => exact .literal text
  | sequence _ _ ihfirst ihnext => exact .sequence ihfirst ihnext
  | choice _ ih =>
    refine .choice fun parser hmem => ?_
    rw [Parser.renameAll_eq_map] at hmem
    obtain ⟨alternative, halternative, rfl⟩ := List.mem_map.1 hmem
    exact ih alternative halternative
  | repetition _ ih => exact .repetition ih
  | option _ ih => exact .option ih
  | negation _ ih => exact .negation ih
  | deferred name => exact .deferred (f name)

namespace Peg

/-- The meaning of parsing expressions: choice is ordered, repetition takes all that it can get, and
a negation looks ahead. -/
inductive Derives (rules : ρ → Option (Parser ρ α)) (input : Text) :
    Parser ρ α → Nat → Verdict → Prop where
  | literal {text : Text} {index stop : Nat} :
      input.slice? index stop = some text →
      Derives rules input (.literal text) index (.consumes stop)
  | literalFails {text : Text} {index : Nat} :
      (∀ stop, input.slice? index stop ≠ some text) →
      Derives rules input (.literal text) index .fails
  | sequence {first next : Parser ρ α} {index middle : Nat} {verdict : Verdict} :
      Derives rules input first index (.consumes middle) →
      Derives rules input next middle verdict →
      Derives rules input (.sequence first next) index verdict
  | sequenceFails {first next : Parser ρ α} {index : Nat} :
      Derives rules input first index .fails →
      Derives rules input (.sequence first next) index .fails
  | exhausted {index : Nat} : Derives rules input (.choice []) index .fails
  | chosen {parser : Parser ρ α} {rest : List (Parser ρ α)} {index stop : Nat} :
      Derives rules input parser index (.consumes stop) →
      Derives rules input (.choice (parser :: rest)) index (.consumes stop)
  | passedOver {parser : Parser ρ α} {rest : List (Parser ρ α)} {index : Nat}
      {verdict : Verdict} :
      Derives rules input parser index .fails →
      Derives rules input (.choice rest) index verdict →
      Derives rules input (.choice (parser :: rest)) index verdict
  | again {body : Parser ρ α} {index middle stop : Nat} :
      Derives rules input body index (.consumes middle) →
      Derives rules input (.repetition body .many) middle (.consumes stop) →
      Derives rules input (.repetition body .many) index (.consumes stop)
  | enough {body : Parser ρ α} {index : Nat} :
      Derives rules input body index .fails →
      Derives rules input (.repetition body .many) index (.consumes index)
  | option {body : Parser ρ α} {index stop : Nat} :
      Derives rules input body index (.consumes stop) →
      Derives rules input (.option body) index (.consumes stop)
  | optionEmpty {body : Parser ρ α} {index : Nat} :
      Derives rules input body index .fails →
      Derives rules input (.option body) index (.consumes index)
  | negation {body : Parser ρ α} {index : Nat} :
      Derives rules input body index .fails →
      Derives rules input (.negation body) index (.consumes index)
  | negationFails {body : Parser ρ α} {index stop : Nat} :
      Derives rules input body index (.consumes stop) →
      Derives rules input (.negation body) index .fails
  | deferred {name : ρ} {parser : Parser ρ α} {index : Nat} {verdict : Verdict} :
      rules name = some parser →
      Derives rules input parser index verdict →
      Derives rules input (.deferred name) index verdict

end Peg

/-! ## §2. Verdicts of the combinators -/

section Verdicts

variable {input text : Text} {index stop : Nat}

theorem matchLiteral_of_slice? (h : input.slice? index stop = some text) :
    (matchLiteral input text index : Outcome (Value α)) = .success ⟨text, index, .text text⟩ := by
  obtain ⟨behind, hbehind⟩ := Text.dropBytes?_of_slice? h
  have hafter : text.after? (text ++ behind) = some behind := Text.after?_eq_some_iff.2 rfl
  simp only [matchLiteral, hbehind, Option.bind_some, hafter]

theorem matchLiteral_verdict_of_slice? (h : input.slice? index stop = some text) :
    (matchLiteral input text index : Outcome (Value α)).verdict = .consumes stop := by
  rw [matchLiteral_of_slice? h]
  exact congrArg Verdict.consumes (Text.add_size_of_slice? h)

theorem matchLiteral_verdict_of_not_slice? (h : ∀ stop, input.slice? index stop ≠ some text) :
    (matchLiteral input text index : Outcome (Value α)).verdict = .fails := by
  have hsliced : (matchLiteral input text index : Outcome (Value α)).Sliced input index :=
    matchLiteral_sliced text
  unfold matchLiteral at hsliced ⊢
  split
  · next rest hrest =>
    simp only [hrest] at hsliced
    exact absurd hsliced.2 (h _)
  · rfl

/-- A sequence whose first part matches comes to what its second part comes to. -/
theorem joinOutcome_verdict {front : Success (Value α)} {outcome : Outcome (Value α)}
    (hfront : front.IsSlice input index) (hback : outcome.Sliced input front.stop) :
    (joinOutcome input index front outcome).verdict = outcome.verdict := by
  cases outcome with
  | failure failure => rfl
  | success back =>
    have hslice : input.slice? index back.stop = some (front.text ++ back.text) :=
      Text.slice?_append hfront.2 hback.2
    simp only [joinOutcome, joinSequence, hslice]
    exact congrArg Verdict.consumes (Text.add_size_of_slice? hslice)

/-- A loop without bounds matches up to the place where it ends. -/
theorem endLoop_verdict {body : Parser ρ α} {values : List (Value α)}
    (h : input.slice? index stop = some text) :
    (endLoop input body .many index stop values).verdict = .consumes stop := by
  simp only [endLoop, finishRounds, Bounds.many, Nat.zero_le, if_true, h]
  exact congrArg Verdict.consumes (Text.add_size_of_slice? h)

theorem slice?_of_endLoop_verdict {body : Parser ρ α} {values : List (Value α)} {stop' : Nat}
    (h : (endLoop input body .many index stop values).verdict = .consumes stop') :
    ∃ text, input.slice? index stop' = some text ∧ stop' = stop := by
  cases hslice : input.slice? index stop with
  | none =>
    simp only [endLoop, finishRounds, Bounds.many, Nat.zero_le, if_true, hslice] at h
    cases h
  | some text =>
    cases (endLoop_verdict hslice).symm.trans h
    exact ⟨text, hslice, rfl⟩

theorem orNothing_verdict_of_consumes {outcome : Outcome (Value α)}
    (h : outcome.verdict = .consumes stop) :
    (orNothing input index outcome).verdict = .consumes stop := by
  cases outcome with
  | success success => exact h
  | failure failure => cases h

theorem orNothing_verdict_of_fails {outcome : Outcome (Value α)}
    (hboundary : input.isBoundary index = true) (h : outcome.verdict = .fails) :
    (orNothing input index outcome).verdict = .consumes index := by
  cases outcome with
  | success success => cases h
  | failure failure =>
    simp only [orNothing, hboundary, if_true]
    rfl

theorem inverted_verdict_of_consumes {body : Parser ρ α} {outcome : Outcome (Value α)}
    (h : outcome.verdict = .consumes stop) :
    (inverted input body index outcome).verdict = .fails := by
  cases outcome with
  | success success => rfl
  | failure failure => cases h

theorem inverted_verdict_of_fails {body : Parser ρ α} {outcome : Outcome (Value α)}
    (hboundary : input.isBoundary index = true) (h : outcome.verdict = .fails) :
    (inverted input body index outcome).verdict = .consumes index := by
  cases outcome with
  | success success => cases h
  | failure failure =>
    simp only [inverted, hboundary, if_true]
    rfl

theorem exists_success_of_verdict {outcome : Outcome (Value α)}
    (h : outcome.verdict = .consumes stop) :
    ∃ success, outcome = .success success ∧ success.stop = stop := by
  cases outcome with
  | success success => exact ⟨success, rfl, Verdict.consumes.inj h⟩
  | failure failure => cases h

theorem exists_failure_of_verdict {outcome : Outcome (Value α)} (h : outcome.verdict = .fails) :
    ∃ failure, outcome = .failure failure := by
  cases outcome with
  | success success => cases h
  | failure failure => exact ⟨failure, rfl⟩

end Verdicts

namespace Peg

variable {rules : ρ → Option (Parser ρ α)} {input : Text} {parser body : Parser ρ α}
  {index start stop position : Nat} {verdict : Verdict}

/-! ## §3. From derivations to parsers -/

/-- What is consumed is a slice of the input. -/
theorem Derives.exists_slice (h : Derives rules input parser index (.consumes stop))
    (hboundary : input.isBoundary index = true) :
    ∃ text, input.slice? index stop = some text := by
  generalize hverdict : Verdict.consumes stop = verdict at h
  induction h generalizing stop with
  | literal hslice =>
    cases hverdict
    exact ⟨_, hslice⟩
  | literalFails _ => cases hverdict
  | sequence _ _ ihfirst ihnext =>
    obtain ⟨front, hfront⟩ := ihfirst hboundary rfl
    obtain ⟨back, hback⟩ := ihnext (Text.isBoundary_stop_of_slice? hfront) hverdict
    exact ⟨front ++ back, Text.slice?_append hfront hback⟩
  | sequenceFails _ _ => cases hverdict
  | exhausted => cases hverdict
  | chosen _ ih => exact ih hboundary hverdict
  | passedOver _ _ _ ih => exact ih hboundary hverdict
  | again _ _ ihbody ihrest =>
    obtain ⟨front, hfront⟩ := ihbody hboundary rfl
    obtain ⟨back, hback⟩ := ihrest (Text.isBoundary_stop_of_slice? hfront) hverdict
    exact ⟨front ++ back, Text.slice?_append hfront hback⟩
  | enough _ _ =>
    cases hverdict
    exact ⟨[], Text.slice?_self hboundary⟩
  | option _ ih => exact ih hboundary hverdict
  | optionEmpty _ _ =>
    cases hverdict
    exact ⟨[], Text.slice?_self hboundary⟩
  | negation _ _ =>
    cases hverdict
    exact ⟨[], Text.slice?_self hboundary⟩
  | negationFails _ _ => cases hverdict
  | deferred _ _ ih => exact ih hboundary hverdict

theorem admits_many (count : Nat) : Bounds.many.admits count = true := rfl

/-- Where a loop ends does not depend on where it started and on what it has matched before. -/
theorem exists_end_of_loop {values : List (Value α)} {outcome : Outcome (Value α)}
    (h : Evaluates rules input ⊤ (.loop body none .many start position values) outcome) :
    ∃ stop more, outcome = endLoop input body .many start stop (more ++ values) ∧
      ∀ start' values', Evaluates rules input ⊤ (.loop body none .many start' position values')
        (endLoop input body .many start' stop (more ++ values')) := by
  -- Every round but the last comes further, and none comes further than the input.
  induction hleft : input.size - position using Nat.strong_induction_on
    generalizing position values with
  | _ left ih =>
  have hround := (evaluates_loop_unseparated_iff (admits_many _) (.inl rfl)).1 h
  rcases evaluates_round_iff.1 hround with
    ⟨failure, hbody, rfl⟩ | ⟨success, hbody, ⟨hstop, rfl⟩ | ⟨hstop, hloop⟩⟩
  · exact ⟨position, [], rfl, fun start' values' =>
      .unseparated (admits_many _) (.inl rfl) (.roundFails hbody)⟩
  · exact ⟨position, [success.value], rfl, fun start' values' =>
      .unseparated (admits_many _) (.inl rfl) (.roundStays hbody hstop)⟩
  · have hle : position ≤ success.stop := hbody.start_le_stop
    have hsize := hbody.stop_le_size
    obtain ⟨stop, more, rfl, hshift⟩ := ih _ (by omega) hloop rfl
    refine ⟨stop, more ++ [success.value], by simp, fun start' values' => ?_⟩
    have hrest := hshift start' (success.value :: values')
    rw [List.append_assoc]
    exact .unseparated (admits_many _) (.inl rfl) (.roundMoves hbody hstop hrest)

/-- One round more, in front of the rounds of a repetition. -/
theorem evaluates_repetition_cons {success : Success (Value α)} {outcome : Outcome (Value α)}
    (hbody : Evaluates rules input ⊤ (.parse body index) (.success success))
    (hrest : Evaluates rules input ⊤ (.parse (.repetition body .many) success.stop) outcome)
    (hverdict : outcome.verdict = .consumes stop) :
    ∃ outcome', Evaluates rules input ⊤ (.parse (.repetition body .many) index) outcome' ∧
      outcome'.verdict = .consumes stop := by
  by_cases hstop : success.stop = index
  · -- The repetition behind a round that stays is the repetition itself.
    rw [hstop] at hrest
    exact ⟨outcome, hrest, hverdict⟩
  · obtain ⟨last, more, rfl, hshift⟩ := exists_end_of_loop (evaluates_repetition_iff.1 hrest)
    obtain ⟨back, hback, rfl⟩ := slice?_of_endLoop_verdict hverdict
    refine ⟨_, evaluates_repetition_iff.2 (.unseparated (admits_many _) (.inl rfl)
      (.roundMoves hbody hstop (hshift index [success.value]))), ?_⟩
    exact endLoop_verdict (Text.slice?_append hbody.isSlice.2 hback)

/-- Whether a choice matches, and how far, does not depend on the alternatives that were tried
before. -/
theorem exists_outcome_of_choose {all all' rest : List (Parser ρ α)}
    {termination termination' : Option Failure} {outcome : Outcome (Value α)}
    (h : Evaluates rules input ⊤ (.choose all termination rest index) outcome) :
    ∃ outcome', Evaluates rules input ⊤ (.choose all' termination' rest index) outcome' ∧
      outcome'.verdict = outcome.verdict := by
  induction rest generalizing termination termination' with
  | nil =>
    obtain rfl := evaluates_choose_nil_iff.1 h
    exact ⟨_, .exhausted all' termination' index, rfl⟩
  | cons parser rest ih =>
    rcases evaluates_choose_cons_iff.1 h with ⟨success, hparser, rfl⟩ | ⟨failure, hparser, hrest⟩
    · exact ⟨_, .chosen hparser, rfl⟩
    · obtain ⟨outcome', hrest', hverdict⟩ := ih hrest
      exact ⟨outcome', .passedOver hparser hrest', hverdict⟩

/-- **What is derived is what the parser comes to.** -/
theorem Derives.evaluates (h : Derives rules input parser index verdict)
    (hboundary : input.isBoundary index = true) :
    ∃ outcome, Evaluates rules input ⊤ (.parse parser index) outcome ∧
      outcome.verdict = verdict := by
  induction h with
  | literal hslice =>
    exact ⟨_, .literal _ _, matchLiteral_verdict_of_slice? hslice⟩
  | literalFails hslice =>
    exact ⟨_, .literal _ _, matchLiteral_verdict_of_not_slice? hslice⟩
  | sequence _ _ ihfirst ihnext =>
    obtain ⟨_, hfirst, hverdict⟩ := ihfirst hboundary
    obtain ⟨front, rfl, rfl⟩ := exists_success_of_verdict hverdict
    obtain ⟨outcome, hnext, hverdict⟩ := ihnext hfirst.isBoundary_stop
    exact ⟨_, .sequence hfirst hnext,
      (joinOutcome_verdict hfirst.isSlice hnext.sliced).trans hverdict⟩
  | sequenceFails _ ih =>
    obtain ⟨_, hfirst, hverdict⟩ := ih hboundary
    obtain ⟨failure, rfl⟩ := exists_failure_of_verdict hverdict
    exact ⟨_, .sequenceFails hfirst, rfl⟩
  | exhausted => exact ⟨_, .choice (.exhausted _ _ _), rfl⟩
  | chosen _ ih =>
    obtain ⟨_, hparser, hverdict⟩ := ih hboundary
    obtain ⟨success, rfl, rfl⟩ := exists_success_of_verdict hverdict
    exact ⟨_, .choice (.chosen hparser), rfl⟩
  | passedOver _ _ ihparser ihrest =>
    obtain ⟨_, hparser, hverdict⟩ := ihparser hboundary
    obtain ⟨failure, rfl⟩ := exists_failure_of_verdict hverdict
    -- The rest is derived as a choice of its own, and run behind what has failed.
    obtain ⟨outcome, hrest, rfl⟩ := ihrest hboundary
    obtain ⟨outcome', hrest', hverdict'⟩ := exists_outcome_of_choose (evaluates_choice_iff.1 hrest)
    exact ⟨outcome', .choice (.passedOver hparser hrest'), hverdict'⟩
  | again _ _ ihbody ihrest =>
    obtain ⟨_, hbody, hverdict⟩ := ihbody hboundary
    obtain ⟨success, rfl, rfl⟩ := exists_success_of_verdict hverdict
    obtain ⟨outcome, hrest, hverdict⟩ := ihrest hbody.isBoundary_stop
    exact evaluates_repetition_cons hbody hrest hverdict
  | enough _ ih =>
    obtain ⟨_, hbody, hverdict⟩ := ih hboundary
    obtain ⟨failure, rfl⟩ := exists_failure_of_verdict hverdict
    exact ⟨_, .repetition (.unseparated (admits_many _) (.inl rfl) (.roundFails hbody)),
      endLoop_verdict (Text.slice?_self hboundary)⟩
  | option _ ih =>
    obtain ⟨_, hbody, hverdict⟩ := ih hboundary
    exact ⟨_, .option hbody, orNothing_verdict_of_consumes hverdict⟩
  | optionEmpty _ ih =>
    obtain ⟨_, hbody, hverdict⟩ := ih hboundary
    exact ⟨_, .option hbody, orNothing_verdict_of_fails hboundary hverdict⟩
  | negation _ ih =>
    obtain ⟨_, hbody, hverdict⟩ := ih hboundary
    exact ⟨_, .negation hbody, inverted_verdict_of_fails hboundary hverdict⟩
  | negationFails _ ih =>
    obtain ⟨_, hbody, hverdict⟩ := ih hboundary
    exact ⟨_, .negation hbody, inverted_verdict_of_consumes hverdict⟩
  | deferred hrule _ ih =>
    obtain ⟨outcome, hparser, hverdict⟩ := ih hboundary
    exact ⟨outcome, evaluates_deferred_iff.2 ⟨_, hrule, hparser⟩, hverdict⟩

/-- A derivation says what the parser comes to. -/
theorem Derives.verdict_eq {outcome : Outcome (Value α)}
    (h : Derives rules input parser index verdict) (hboundary : input.isBoundary index = true)
    (hevaluates : Evaluates rules input ⊤ (.parse parser index) outcome) :
    outcome.verdict = verdict := by
  obtain ⟨outcome', hevaluates', rfl⟩ := h.evaluates hboundary
  rw [hevaluates.deterministic hevaluates']

/-! ## §4. From parsers to derivations -/

/-- What is derived for a text. -/
theorem derives_literal (text : Text) (index : Nat) :
    Derives rules input (.literal text) index
      (matchLiteral input text index : Outcome (Value α)).verdict := by
  by_cases hslice : ∃ stop, input.slice? index stop = some text
  · obtain ⟨stop, hslice⟩ := hslice
    rw [matchLiteral_verdict_of_slice? hslice]
    exact .literal hslice
  · rw [matchLiteral_verdict_of_not_slice? fun stop h => hslice ⟨stop, h⟩]
    exact .literalFails fun stop h => hslice ⟨stop, h⟩

/-- The outcome of a task about parsing expressions is derived. -/
def Explains (rules : ρ → Option (Parser ρ α)) (input : Text) :
    Task ρ α → Outcome (Value α) → Prop
  | .parse parser index, outcome => parser.IsPeg → input.isBoundary index = true →
      Derives rules input parser index outcome.verdict
  | .choose _ _ rest index, outcome => (∀ parser ∈ rest, parser.IsPeg) →
      input.isBoundary index = true → Derives rules input (.choice rest) index outcome.verdict
  | .loop body separator bounds start position _, outcome =>
      separator = none → bounds = .many → body.IsPeg → input.isBoundary position = true →
      ∃ stop values, outcome = endLoop input body .many start stop values ∧
        Derives rules input (.repetition body .many) position (.consumes stop)
  | .round body separator bounds start position behind _, outcome =>
      separator = none → bounds = .many → position = behind → body.IsPeg →
      input.isBoundary behind = true →
      ∃ stop values, outcome = endLoop input body .many start stop values ∧
        Derives rules input (.repetition body .many) behind (.consumes stop)

/-- On the way of a task on which bodies of repetitions match something, every outcome is
derived. -/
theorem explains_of_evaluates {depth : ℕ∞} {task : Task ρ α} {outcome : Outcome (Value α)}
    (hrules : ∀ name parser, rules name = some parser → parser.IsPeg)
    (h : Evaluates rules input depth task outcome) (hprogresses : task.Progresses rules input) :
    Explains rules input task outcome := by
  -- Along the run. Each premise is asked for by its conclusion, so the condition comes down to it.
  induction h with
  | literal text index =>
    intro _ _
    exact derives_literal text index
  | pattern expression index =>
    rintro ⟨⟩
  | sequenceFails _ ih =>
    rintro (_ | ⟨hfirst, _⟩) hboundary
    exact .sequenceFails (ih (hprogresses.of_asks .first) hfirst hboundary)
  | sequence hfront hback ihfirst ihnext =>
    rintro (_ | ⟨hfirst, hnext⟩) hboundary
    rw [joinOutcome_verdict hfront.isSlice hback.sliced]
    exact .sequence (ihfirst (hprogresses.of_asks .first) hfirst hboundary)
      (ihnext (hprogresses.of_asks (.next (hfront.mono le_top))) hnext hfront.isBoundary_stop)
  | choice _ ih =>
    rintro (_ | _ | hall) hboundary
    exact ih (hprogresses.of_asks .choice) hall hboundary
  | exhausted all termination index =>
    intro _ _
    exact .exhausted
  | chosen _ ih =>
    intro hall hboundary
    exact .chosen (ih (hprogresses.of_asks .alternative) (hall _ List.mem_cons_self) hboundary)
  | passedOver hparser _ ihparser ihrest =>
    intro hall hboundary
    obtain ⟨hfirst, hrest⟩ := List.forall_mem_cons.1 hall
    exact .passedOver (ihparser (hprogresses.of_asks .alternative) hfirst hboundary)
      (ihrest (hprogresses.of_asks (.others (hparser.mono le_top))) hrest hboundary)
  | repetition _ ih =>
    rintro (_ | _ | _ | hbody) hboundary
    obtain ⟨stop, values, rfl, hderives⟩ :=
      ih (hprogresses.of_asks .repetition) rfl rfl hbody hboundary
    obtain ⟨text, hslice⟩ := hderives.exists_slice hboundary
    rw [endLoop_verdict hslice]
    exact hderives
  | separated _ _ => rintro ⟨⟩
  | full hadmits =>
    rintro _ rfl
    cases hadmits
  | unseparated hadmits hsep _ ih =>
    intro hnone hbounds hbody hboundary
    exact ih (hprogresses.of_asks (.unseparated hadmits hsep)) hnone hbounds rfl hbody hboundary
  | separatorFails _ _ _ _ => rintro ⟨⟩
  | separatorMatches _ _ _ _ _ _ => rintro ⟨⟩
  | roundFails _ ih =>
    rintro rfl rfl rfl hbody hboundary
    exact ⟨_, _, rfl, .enough (ih (hprogresses.of_asks .body) hbody hboundary)⟩
  | roundStays hsuccess hstop _ =>
    -- A round that stays where it is matches nothing, and there is none on the way.
    rintro rfl rfl rfl _ _
    exact absurd (hsuccess.text_eq_nil hstop) (hprogresses.text_ne_nil (hsuccess.mono le_top))
  | roundMoves hsuccess hstop _ ihbody ihloop =>
    rintro rfl rfl rfl hbody hboundary
    obtain ⟨stop, values, rfl, hderives⟩ :=
      ihloop (hprogresses.of_asks (.again (hsuccess.mono le_top) hstop)) rfl rfl hbody
        hsuccess.isBoundary_stop
    exact ⟨stop, values, rfl,
      .again (ihbody (hprogresses.of_asks .body) hbody hboundary) hderives⟩
  | @option _ _ _ inner _ ih =>
    rintro (_ | _ | _ | _ | hbody) hboundary
    have hinner := ih (hprogresses.of_asks .option) hbody hboundary
    cases inner with
    | success success =>
      rw [orNothing_verdict_of_consumes rfl]
      exact .option hinner
    | failure failure =>
      rw [orNothing_verdict_of_fails hboundary rfl]
      exact .optionEmpty hinner
  | @negation _ _ _ inner _ ih =>
    rintro (_ | _ | _ | _ | _ | hbody) hboundary
    have hinner := ih (hprogresses.of_asks .negation) hbody hboundary
    cases inner with
    | success success =>
      rw [inverted_verdict_of_consumes rfl]
      exact .negationFails hinner
    | failure failure =>
      rw [inverted_verdict_of_fails hboundary rfl]
      exact .negation hinner
  | anchored _ _ => rintro ⟨⟩
  | mapped _ _ => rintro ⟨⟩
  | converted _ _ => rintro ⟨⟩
  | deferred hrule _ _ ih =>
    intro _ hboundary
    exact .deferred hrule (ih (hprogresses.of_asks (.deferred hrule)) (hrules _ _ hrule) hboundary)

/-! ## §5. Repetitions that match nothing -/

/-- The tasks by which an expression is run: itself, what is left of a choice's alternatives, and
what is left of a repetition's rounds. -/
inductive RunsAs : Parser ρ α → Nat → Task ρ α → Prop where
  | parse (parser : Parser ρ α) (index : Nat) : RunsAs parser index (.parse parser index)
  | choose (all rest : List (Parser ρ α)) (termination : Option Failure) (index : Nat) :
      RunsAs (.choice rest) index (.choose all termination rest index)
  | loop (body : Parser ρ α) (start position : Nat) (values : List (Value α)) :
      RunsAs (.repetition body .many) position (.loop body none .many start position values)

theorem RunsAs.progresses_choice {rest : List (Parser ρ α)} {task : Task ρ α}
    (hruns : RunsAs (.choice rest) index task)
    (h : ∀ all termination, (Task.choose all termination rest index).Progresses rules input) :
    task.Progresses rules input := by
  cases hruns with
  | parse =>
    refine Task.progresses_of_forall (by simp) ?_
    rintro _ ⟨⟩
    exact h rest none
  | choose => exact h _ _

theorem RunsAs.progresses_option {task : Task ρ α} (hruns : RunsAs (.option body) index task)
    (h : (Task.parse body index).Progresses rules input) : task.Progresses rules input := by
  cases hruns
  refine Task.progresses_of_forall (by simp) ?_
  rintro _ ⟨⟩
  exact h

theorem RunsAs.progresses_negation {task : Task ρ α} (hruns : RunsAs (.negation body) index task)
    (h : (Task.parse body index).Progresses rules input) : task.Progresses rules input := by
  cases hruns
  refine Task.progresses_of_forall (by simp) ?_
  rintro _ ⟨⟩
  exact h

theorem RunsAs.progresses_repetition {task : Task ρ α}
    (hruns : RunsAs (.repetition body .many) index task)
    (h : ∀ start values,
      (Task.round body none .many start index index values).Progresses rules input) :
    task.Progresses rules input := by
  have hloop (start : Nat) (values : List (Value α)) :
      (Task.loop body none .many start index values).Progresses rules input := by
    refine Task.progresses_of_forall (by simp) ?_
    rintro _ ⟨⟩
    exact h start values
  cases hruns with
  | parse =>
    refine Task.progresses_of_forall (by simp) ?_
    rintro _ ⟨⟩
    exact hloop index []
  | loop => exact hloop _ _

/-- The body of a repetition that is derived does not match nothing: the repetition behind such a
round is the repetition itself, and its derivation would never end. -/
theorem Derives.text_ne_nil {success : Success (Value α)}
    (h : Derives rules input (.repetition body .many) index verdict)
    (hboundary : input.isBoundary index = true)
    (hbody : Evaluates rules input ⊤ (.parse body index) (.success success)) :
    success.text ≠ [] := by
  -- A round that matches nothing has the same repetition behind it, with a smaller derivation.
  generalize hparser : Parser.repetition body .many = parser at h
  induction h with
  | @again _ index middle _ hround _ _ ih =>
    cases hparser
    intro hnil
    have hmiddle : success.stop = middle :=
      Verdict.consumes.inj (hround.verdict_eq hboundary hbody)
    have hstop : success.stop = index := by
      simp only [Success.stop, Success.size, hnil, hbody.isSlice.1, Text.size_nil, Nat.add_zero]
    obtain rfl : middle = index := hmiddle.symm.trans hstop
    exact ih hboundary hbody rfl hnil
  | enough hround _ =>
    -- Here the body fails.
    cases hparser
    cases hround.verdict_eq hboundary hbody
  | _ => cases hparser

/-- **Where there is a derivation, every body of a repetition that matches matches something.** -/
theorem Derives.progresses (h : Derives rules input parser index verdict)
    (hboundary : input.isBoundary index = true) {task : Task ρ α}
    (hruns : RunsAs parser index task) : task.Progresses rules input := by
  -- Along the derivation: what a task asks for is what the premises are about, because what came
  -- before it has the verdict that they give it.
  induction h generalizing task with
  | literal _ =>
    cases hruns
    exact Task.progresses_of_forall (by simp) (by rintro _ ⟨⟩)
  | literalFails _ =>
    cases hruns
    exact Task.progresses_of_forall (by simp) (by rintro _ ⟨⟩)
  | sequence hfirst _ ihfirst ihnext =>
    cases hruns
    refine Task.progresses_of_forall (by simp) ?_
    intro _ hasks
    cases hasks with
    | first => exact ihfirst hboundary (.parse _ _)
    | next hfront =>
      cases hfirst.verdict_eq hboundary hfront
      exact ihnext hfront.isBoundary_stop (.parse _ _)
  | sequenceFails hfirst ih =>
    cases hruns
    refine Task.progresses_of_forall (by simp) ?_
    intro _ hasks
    cases hasks with
    | first => exact ih hboundary (.parse _ _)
    | next hfront => cases hfirst.verdict_eq hboundary hfront
  | exhausted =>
    refine hruns.progresses_choice fun all termination => ?_
    exact Task.progresses_of_forall (by simp) (by rintro _ ⟨⟩)
  | chosen hparser ih =>
    refine hruns.progresses_choice fun all termination =>
      Task.progresses_of_forall (by simp) ?_
    intro _ hasks
    cases hasks with
    | alternative => exact ih hboundary (.parse _ _)
    | others hfailure => cases hparser.verdict_eq hboundary hfailure
  | passedOver _ _ ihparser ihrest =>
    refine hruns.progresses_choice fun all termination =>
      Task.progresses_of_forall (by simp) ?_
    intro _ hasks
    cases hasks with
    | alternative => exact ihparser hboundary (.parse _ _)
    | others => exact ihrest hboundary (.choose _ _ _ _)
  | again hround hrest ihbody ihrest =>
    refine hruns.progresses_repetition fun start values => Task.progresses_of_forall ?_ ?_
    -- The round itself, and then what it asks for.
    · rintro _ _ _ _ _ _ _ _ ⟨⟩ hbody
      exact (Derives.again hround hrest).text_ne_nil hboundary hbody
    · intro _ hasks
      cases hasks with
      | body => exact ihbody hboundary (.parse _ _)
      | again hbody _ =>
        cases hround.verdict_eq hboundary hbody
        exact ihrest hbody.isBoundary_stop (.loop _ _ _ _)
  | enough hround ih =>
    refine hruns.progresses_repetition fun start values => Task.progresses_of_forall ?_ ?_
    · rintro _ _ _ _ _ _ _ _ ⟨⟩ hbody
      exact (Derives.enough hround).text_ne_nil hboundary hbody
    · intro _ hasks
      cases hasks with
      | body => exact ih hboundary (.parse _ _)
      | again hbody _ => cases hround.verdict_eq hboundary hbody
  | option _ ih => exact hruns.progresses_option (ih hboundary (.parse _ _))
  | optionEmpty _ ih => exact hruns.progresses_option (ih hboundary (.parse _ _))
  | negation _ ih => exact hruns.progresses_negation (ih hboundary (.parse _ _))
  | negationFails _ ih => exact hruns.progresses_negation (ih hboundary (.parse _ _))
  | deferred hrule _ ih =>
    cases hruns
    refine Task.progresses_of_forall (by simp) ?_
    intro _ hasks
    cases hasks with
    | deferred hrule' =>
      cases hrule.symm.trans hrule'
      exact ih hboundary (.parse _ _)

end Peg

end Backtrack
