import Backtrack.Proofs.Parser.Depth
import Backtrack.Proofs.Session.Life

/-! # What a run answers

    A run calls for rules as it meets them and remembers them in a store.
    Neither shows in what it answers: a run from any store that runs can
    leave behind gives exactly the outcomes that can be derived for the
    session's parser.

    A step of a run *realizes* a property of outcomes if, on every sound
    store in which the cells it mentions are live, it keeps the store sound
    and its answers are those with the property.

    * `Session.realizes_parseWith`: a parser, from the calls it makes.
    * `Session.realizes_call`: a call that may enter so many rules.
    * `Grammar.Reaches.run_eq_ok_iff`: a whole run. -/

namespace Backtrack

variable {κ α β γ : Type} [DecidableEq κ] {session : Session κ α}

/-! ## §1. Steps of a run -/

/-- The step answers with what has the property, and keeps stores sound in which the cells it
mentions are live. -/
def Session.Realizes (session : Session κ α) (cells : Cell κ → Prop) (step : Run κ α β)
    (property : β → Prop) : Prop :=
  ∀ store, session.Sound store → (∀ cell, cells cell → session.Live store cell) →
    session.Extends store (step.run.run store).2 ∧
      ∀ value, (step.run.run store).1 = .ok value ↔ property value

namespace Session.Realizes

variable {cells cells' : Cell κ → Prop} {step : Run κ α β} {next : β → Run κ α γ}
  {property property' : β → Prop} {result : β → γ → Prop}

theorem congr (h : session.Realizes cells step property)
    (hiff : ∀ value, property value ↔ property' value) :
    session.Realizes cells step property' := by
  intro store hsound hlive
  obtain ⟨hextends, hanswer⟩ := h store hsound hlive
  exact ⟨hextends, fun value => (hanswer value).trans (hiff value)⟩

theorem mono (h : session.Realizes cells step property) (hle : ∀ cell, cells cell → cells' cell) :
    session.Realizes cells' step property :=
  fun store hsound hlive => h store hsound fun cell hcell => hlive cell (hle cell hcell)

theorem pure (value : β) : session.Realizes cells (Pure.pure value) (· = value) := by
  intro store hsound _
  refine ⟨hsound.extends, fun value' => ?_⟩
  constructor
  · intro h
    exact (Except.ok.inj h).symm
  · rintro rfl
    rfl

/-- A step goes on with its answer. -/
theorem bind (hstep : session.Realizes cells step property)
    (hnext : ∀ value, property value → session.Realizes cells (next value) (result value)) :
    session.Realizes cells (step >>= next)
      (fun value' => ∃ value, property value ∧ result value value') := by
  intro store hsound hlive
  obtain ⟨hextends, hanswer⟩ := hstep store hsound hlive
  rw [Run.run_bind]
  rcases hrun : step.run.run store with ⟨stop | value, after⟩
  · rw [hrun] at hextends hanswer
    refine ⟨hextends, fun value' => ?_⟩
    constructor
    · intro h
      cases h
    · rintro ⟨value, hvalue, _⟩
      cases (hanswer value).2 hvalue
  · rw [hrun] at hextends hanswer
    have hvalue : property value := (hanswer value).1 rfl
    have hlive' (cell : Cell κ) (hcell : cells cell) : session.Live after cell :=
      hextends.live cell (hlive cell hcell)
    obtain ⟨hextends', hanswer'⟩ := hnext value hvalue after hextends.sound hlive'
    refine ⟨hextends.trans hextends', fun value' => (hanswer' value').trans ?_⟩
    constructor
    · exact fun h => ⟨value, hvalue, h⟩
    · rintro ⟨other, hother, h⟩
      cases (hanswer other).2 hother
      exact h

/-- A function of a step's answer. -/
theorem bind_pure (hstep : session.Realizes cells step property) (f : β → γ) :
    session.Realizes cells (step >>= fun value => Pure.pure (f value))
      (fun value' => ∃ value, property value ∧ value' = f value) :=
  hstep.bind fun value _ => .pure (f value)

/-- A step goes on with its answer in one way where it fails and in another where it succeeds. -/
theorem bind_outcome {step : Run κ α (Outcome β)} {property : Outcome β → Prop}
    {next : Outcome β → Run κ α γ} {onFailure : Failure → γ → Prop}
    {onSuccess : Success β → γ → Prop} (hstep : session.Realizes cells step property)
    (hfailure : ∀ failure, session.Realizes cells (next (.failure failure)) (onFailure failure))
    (hsuccess : ∀ success, property (.success success) →
      session.Realizes cells (next (.success success)) (onSuccess success)) :
    session.Realizes cells (step >>= next)
      (fun value => (∃ failure, property (.failure failure) ∧ onFailure failure value) ∨
        ∃ success, property (.success success) ∧ onSuccess success value) := by
  have hnext (outcome : Outcome β) (houtcome : property outcome) :
      session.Realizes cells (next outcome)
        (fun value => (∃ failure, outcome = .failure failure ∧ onFailure failure value) ∨
          ∃ success, outcome = .success success ∧ onSuccess success value) := by
    cases outcome with
    | failure failure => exact (hfailure failure).congr fun value => by simp
    | success success => exact (hsuccess success houtcome).congr fun value => by simp
  apply (hstep.bind hnext).congr
  intro value
  constructor
  · rintro ⟨_, houtcome, ⟨failure, rfl, h⟩ | ⟨success, rfl, h⟩⟩
    · exact .inl ⟨failure, houtcome, h⟩
    · exact .inr ⟨success, houtcome, h⟩
  · rintro (⟨failure, houtcome, h⟩ | ⟨success, houtcome, h⟩)
    · exact ⟨.failure failure, houtcome, .inl ⟨failure, rfl, h⟩⟩
    · exact ⟨.success success, houtcome, .inr ⟨success, rfl, h⟩⟩

end Session.Realizes

/-! ## §2. Repetition -/

section Repetition

variable {input : Text} {depth : ℕ∞} {cells : Cell κ → Prop}
  {step separator : Nat → Run κ α (Outcome (Value α))} {body between : Parser κ α}
  {bounds : Bounds} {start limit position behind : Nat} {values : List (Value α)}

/-- A round behind its separator, where the rounds after it are known. -/
theorem Session.realizes_round {between : Option (Parser κ α)}
    {next : Outcome (Value α) → Run κ α (Rounds (Value α))}
    (again : Success (Value α) → Run κ α (Rounds (Value α)))
    (hstep : session.Realizes cells (step behind)
      (Evaluates session.rule? input depth (.parse body behind)))
    (hfails : ∀ failure, next (.failure failure) = pure ⟨values.reverse, behind⟩)
    (hsucceeds : ∀ success, next (.success success) =
      if success.stop = position then pure ⟨(success.value :: values).reverse, position⟩
      else again success)
    (hagain : ∀ success, Evaluates session.rule? input depth (.parse body behind)
        (.success success) → success.stop ≠ position →
      session.Realizes cells
        (again success >>= fun result => pure (finishRounds input body bounds start result))
        (Evaluates session.rule? input depth
          (.loop body between bounds start success.stop (success.value :: values)))) :
    session.Realizes cells
      ((step behind >>= next) >>= fun result =>
        pure (finishRounds input body bounds start result))
      (Evaluates session.rule? input depth
        (.round body between bounds start position behind values)) := by
  rw [bind_assoc]
  refine (hstep.bind_outcome (fun failure => ?_) fun success hsuccess => ?_).congr
    fun outcome => evaluates_round_iff.symm
  · rw [hfails, pure_bind]
    exact .pure _
  · by_cases hstop : success.stop = position
    · rw [hsucceeds, if_pos hstop, pure_bind]
      exact (Realizes.pure _).congr fun outcome => by simp [hstop, endLoop]
    · rw [hsucceeds, if_neg hstop]
      exact (hagain success hsuccess hstop).congr fun outcome => by simp [hstop]

/-- The rounds of a repetition, and what the repetition makes of them. There is a limit that no
repetition reaches, as each round but the last one consumes a byte at least. -/
theorem Session.realizes_rounds
    (hstep : ∀ position, session.Realizes cells (step position)
      (Evaluates session.rule? input depth (.parse body position)))
    (hlimit : input.size - position < limit) :
    session.Realizes cells
      (rounds step bounds limit position values.length values >>= fun result =>
        pure (finishRounds input body bounds start result))
      (Evaluates session.rule? input depth (.loop body none bounds start position values)) := by
  -- The limit goes down with what is left of the input, which every round but the last shortens.
  induction limit generalizing position values with
  | zero => omega
  | succ limit ih =>
    cases hadmits : bounds.admits values.length with
    | false =>
      simp only [rounds, hadmits, Bool.false_eq_true, if_false, pure_bind]
      exact (Realizes.pure _).congr fun outcome => (evaluates_loop_full_iff hadmits).symm
    | true =>
      simp only [rounds, hadmits, if_true]
      refine (Session.realizes_round
        (fun success =>
          rounds step bounds limit success.stop (values.length + 1) (success.value :: values))
        (hstep position) (fun _ => rfl) (fun _ => rfl) fun success hsuccess hstop => ?_).congr
        fun outcome => (evaluates_loop_unseparated_iff hadmits (.inl rfl)).symm
      have hlo : position ≤ success.stop := hsuccess.start_le_stop
      have hhi := hsuccess.stop_le_size
      have hlimit' : input.size - success.stop < limit := by omega
      exact @ih success.stop (success.value :: values) hlimit'

/-- The same with a separator before every round but the first. -/
theorem Session.realizes_separatedRounds
    (hstep : ∀ position, session.Realizes cells (step position)
      (Evaluates session.rule? input depth (.parse body position)))
    (hseparator : ∀ position, session.Realizes cells (separator position)
      (Evaluates session.rule? input depth (.parse between position)))
    (hlimit : input.size - position < limit) :
    session.Realizes cells
      (separatedRounds step separator bounds limit position values.length values >>= fun result =>
        pure (finishRounds input body bounds start result))
      (Evaluates session.rule? input depth
        (.loop body (some between) bounds start position values)) := by
  induction limit generalizing position values with
  | zero => omega
  | succ limit ih =>
    cases hadmits : bounds.admits values.length with
    | false =>
      simp only [separatedRounds, hadmits, Bool.false_eq_true, if_false, pure_bind]
      exact (Realizes.pure _).congr fun outcome => (evaluates_loop_full_iff hadmits).symm
    | true =>
      simp only [separatedRounds, hadmits, if_true]
      have again (success : Success (Value α)) (hlo : position ≤ success.stop)
          (hstop : success.stop ≠ position) (hhi : success.stop ≤ input.size) :
          session.Realizes cells
            (separatedRounds step separator bounds limit success.stop (values.length + 1)
                (success.value :: values) >>= fun result =>
              pure (finishRounds input body bounds start result))
            (Evaluates session.rule? input depth
              (.loop body (some between) bounds start success.stop (success.value :: values))) := by
        have hlimit' : input.size - success.stop < limit := by omega
        exact @ih success.stop (success.value :: values) hlimit'
      by_cases hvalues : values = []
      · have hempty : values.isEmpty = true := by simp [hvalues]
        simp only [hempty, if_true, pure_bind]
        refine (Session.realizes_round
          (fun success => separatedRounds step separator bounds limit success.stop
            (values.length + 1) (success.value :: values))
          (hstep position) (fun _ => rfl) (fun _ => rfl) fun success hsuccess hstop => ?_).congr
          fun outcome => (evaluates_loop_unseparated_iff hadmits (.inr hvalues)).symm
        exact again success hsuccess.start_le_stop hstop hsuccess.stop_le_size
      · have hempty : values.isEmpty = false := by simp [hvalues]
        simp only [hempty, Bool.false_eq_true, if_false, separatedRounds.separate, bind_assoc]
        refine ((hseparator position).bind_outcome (fun failure => ?_)
          fun success hsuccess => ?_).congr
          fun outcome => (evaluates_loop_separated_iff hadmits hvalues).symm
        · simp only [pure_bind]
          exact .pure _
        · simp only [pure_bind]
          refine Session.realizes_round
            (fun success => separatedRounds step separator bounds limit success.stop
              (values.length + 1) (success.value :: values))
            (hstep success.stop) (fun _ => rfl) (fun _ => rfl) fun next hnext hstop => ?_
          -- The separator itself never moves back.
          have hlo : position ≤ success.stop := hsuccess.start_le_stop
          exact again next (hlo.trans hnext.start_le_stop) hstop hnext.stop_le_size

end Repetition

/-! ## §3. Parsers -/

section Parsers

variable {input : Text} {depth : ℕ∞} {call : Cell κ → Nat → Run κ α (Outcome (Value α))}

/-- The alternatives that are left of a choice. -/
theorem Session.realizes_chooseWith {all rest : List (BuiltParser κ α)} {index : Nat}
    {termination : Option Failure}
    (each : ∀ parser ∈ rest, ∀ index, session.Realizes parser.Mentions
      (parser.parseWith call input index)
      (Evaluates session.rule? input depth (.parse parser.overRules index))) :
    session.Realizes (fun cell => ∃ parser ∈ rest, parser.Mentions cell)
      (Parser.chooseWith call input all termination rest index)
      (Evaluates session.rule? input depth
        (.choose (Parser.renameAll Cell.rule all) termination (Parser.renameAll Cell.rule rest)
          index)) := by
  induction rest generalizing termination with
  | nil =>
    simp only [Parser.chooseWith, Parser.renameAll]
    apply (Realizes.pure _).congr
    intro outcome
    rw [evaluates_choose_nil_iff, Parser.noneMatched_renameAll]
  | cons parser rest ih =>
    simp only [Parser.chooseWith, Parser.renameAll]
    have hfirst : session.Realizes (fun cell => ∃ other ∈ parser :: rest, other.Mentions cell)
        (parser.parseWith call input index)
        (Evaluates session.rule? input depth (.parse parser.overRules index)) :=
      (each parser List.mem_cons_self index).mono
        fun cell hcell => ⟨parser, List.mem_cons_self, hcell⟩
    refine (hfirst.bind_outcome (fun failure => ?_) fun success _ => ?_).congr
      fun outcome => (evaluates_choose_cons_iff.trans or_comm).symm
    · refine (ih fun other hmem => each other (List.mem_cons_of_mem _ hmem)).mono ?_
      rintro cell ⟨other, hmem, hcell⟩
      exact ⟨other, List.mem_cons_of_mem _ hmem, hcell⟩
    · exact .pure _

/-- A parser realizes what can be derived for it, if the calls of cells do. -/
theorem Session.realizes_parseWith
    (hcall : ∀ cell index, session.Realizes (· = cell) (call cell index)
      (Evaluates session.rule? input depth (.parse (.deferred cell.rule) index)))
    (parser : BuiltParser κ α) (index : Nat) :
    session.Realizes parser.Mentions (parser.parseWith call input index)
      (Evaluates session.rule? input depth (.parse parser.overRules index)) := by
  induction parser using Parser.induction generalizing index with
  | literal text =>
    simp only [Parser.parseWith]
    exact (Realizes.pure _).congr fun outcome => evaluates_literal_iff.symm
  | pattern expression =>
    simp only [Parser.parseWith]
    exact (Realizes.pure _).congr fun outcome => evaluates_pattern_iff.symm
  | sequence first next hfirst hnext =>
    simp only [Parser.parseWith, Parser.overRules, Parser.rename]
    have hfirst' : session.Realizes (Parser.sequence first next).Mentions
        (first.parseWith call input index)
        (Evaluates session.rule? input depth (.parse first.overRules index)) :=
      (hfirst index).mono fun cell hcell => .first hcell
    refine (hfirst'.bind_outcome (fun failure => ?_) fun front _ => ?_).congr
      fun outcome => evaluates_sequence_iff.symm
    · exact .pure _
    · have hnext' : session.Realizes (Parser.sequence first next).Mentions
          (next.parseWith call input front.stop)
          (Evaluates session.rule? input depth (.parse next.overRules front.stop)) :=
        (hnext front.stop).mono fun cell hcell => .next hcell
      apply hnext'.bind
      intro back _
      cases back with
      | failure failure => exact .pure _
      | success back => exact .pure _
  | choice alternatives ih =>
    simp only [Parser.parseWith, Parser.overRules, Parser.rename]
    refine ((Session.realizes_chooseWith ih).mono ?_).congr
      fun outcome => evaluates_choice_iff.symm
    rintro cell ⟨parser, hmem, hcell⟩
    exact .alternative hmem hcell
  | repetition body bounds ih =>
    simp only [Parser.parseWith, Parser.overRules, Parser.rename]
    rw [← Parser.finishRounds_rename Cell.rule]
    refine (Session.realizes_rounds (fun position => ?_) ?_).congr
      fun outcome => evaluates_repetition_iff.symm
    · exact (ih position).mono fun cell hcell => .repetition hcell
    · exact Nat.lt_succ_self _
  | separated body separator bounds hbody hseparator =>
    simp only [Parser.parseWith, Parser.overRules, Parser.rename]
    rw [← Parser.finishRounds_rename Cell.rule]
    refine (Session.realizes_separatedRounds (fun position => ?_) (fun position => ?_) ?_).congr
      fun outcome => evaluates_separated_iff.symm
    · exact (hbody position).mono fun cell hcell => .body hcell
    · exact (hseparator position).mono fun cell hcell => .separator hcell
    · exact Nat.lt_succ_self _
  | option body ih =>
    simp only [Parser.parseWith, Parser.overRules, Parser.rename]
    exact (((ih index).mono fun cell hcell => .option hcell).bind_pure _).congr
      fun outcome => evaluates_option_iff.symm
  | negation body ih =>
    simp only [Parser.parseWith, Parser.overRules, Parser.rename]
    rw [← Parser.inverted_rename Cell.rule]
    exact (((ih index).mono fun cell hcell => .negation hcell).bind_pure _).congr
      fun outcome => evaluates_negation_iff.symm
  | anchored body ih =>
    simp only [Parser.parseWith, Parser.overRules, Parser.rename]
    exact (((ih index).mono fun cell hcell => .anchored hcell).bind_pure _).congr
      fun outcome => evaluates_anchored_iff.symm
  | mapped body convert ih =>
    simp only [Parser.parseWith, Parser.overRules, Parser.rename]
    exact (((ih index).mono fun cell hcell => .mapped hcell).bind_pure _).congr
      fun outcome => evaluates_mapped_iff.symm
  | converted body convert ih =>
    simp only [Parser.parseWith, Parser.overRules, Parser.rename]
    rw [← Parser.convertOutcome_rename Cell.rule]
    exact (((ih index).mono fun cell hcell => .converted hcell).bind_pure _).congr
      fun outcome => evaluates_converted_iff.symm
  | deferred cell =>
    simp only [Parser.parseWith, Parser.overRules, Parser.rename]
    apply (hcall cell index).mono
    intro other hcell
    subst hcell
    exact .deferred other

/-- A call that may enter so many rules realizes what can be derived at this depth. -/
theorem Session.realizes_call (input : Text) (depth : ℕ) (cell : Cell κ) (index : Nat) :
    session.Realizes (· = cell) (session.call input depth cell index)
      (Evaluates session.rule? input depth (.parse (.deferred cell.rule) index)) := by
  induction depth generalizing cell index with
  | zero =>
    intro store hsound _
    refine ⟨hsound.extends, fun outcome => ?_⟩
    constructor
    · intro h
      cases h
    · intro h
      exact absurd h not_evaluates_deferred_zero
  | succ depth ih =>
    intro store hsound hlive
    obtain ⟨hextends, hresolved⟩ := Session.resolve_spec hsound (hlive cell rfl)
    simp only [Session.call]
    rw [Run.run_bind]
    rcases hrun : (session.resolve cell).run.run store with ⟨stop | parser, after⟩
    · rw [hrun] at hextends hresolved
      refine ⟨hextends, fun outcome => ?_⟩
      constructor
      · intro h
        cases h
      · intro h
        obtain ⟨parser, hrule, _⟩ := evaluates_deferred_succ_iff.1 h
        have hnone : session.rule? cell.rule = none := hresolved
        rw [hnone] at hrule
        cases hrule
    · rw [hrun] at hextends hresolved
      -- The parser that the cell holds runs at one depth less.
      obtain ⟨hrule, hcells⟩ := hresolved
      obtain ⟨hextends', hanswer⟩ :=
        Session.realizes_parseWith ih parser index after hextends.sound hcells
      refine ⟨hextends.trans hextends', fun outcome => (hanswer outcome).trans ?_⟩
      rw [evaluates_deferred_succ_iff]
      constructor
      · exact fun h => ⟨_, hrule, h⟩
      · rintro ⟨other, hother, h⟩
        rw [hrule] at hother
        cases hother
        exact h

end Parsers

/-! ## §4. Runs -/

section Runs

variable {input : Text} {index : Nat} {store : Store κ α}

/-- The rules that stand for something are among those that are written. -/
theorem Session.mem_of_rule?_eq_some {name : κ} {parser : Parser κ α}
    (h : session.rule? name = some parser) : name ∈ session.rules.map Prod.fst := by
  unfold Session.rule? at h
  cases hlookup : session.rules.lookup name with
  | none =>
    rw [hlookup] at h
    cases h
  | some template =>
    obtain ⟨before, behind, hrules, _⟩ := List.lookup_eq_some_iff.1 hlookup
    simp [hrules]

/-- A run from a sound store leaves a sound one and answers what can be derived. -/
theorem Session.Sound.run_spec (h : session.Sound store) (input : Text) (index : Nat) :
    session.Sound (session.run store input index).2.1 ∧
      ∀ outcome, (session.run store input index).1 = .ok outcome ↔
        Evaluates session.rule? input ⊤ (.parse session.parser index) outcome := by
  -- A run starts by forgetting what earlier ones called for.
  have hforget : session.Sound { store with resolved := [] } := h.of_eq rfl rfl
  obtain ⟨hextends, hanswer⟩ := Session.realizes_parseWith
    (Session.realizes_call input (session.depthFor input)) session.root index _ hforget
    fun cell hcell => .inl hcell
  refine ⟨hextends.sound, fun outcome => (hanswer outcome).trans ?_⟩
  -- The depth of the run is the number of rules times that of places, which always suffices.
  have hnames (name : κ) (parser : Parser κ α) (hrule : session.rule? name = some parser) :
      name ∈ (session.rules.map Prod.fst).toFinset :=
    List.mem_toFinset.2 (Session.mem_of_rule?_eq_some hrule)
  have hcard : (session.rules.map Prod.fst).toFinset.card ≤ session.rules.length := by
    simpa using List.toFinset_card_le (session.rules.map Prod.fst)
  exact (evaluates_top_iff hnames (Nat.mul_le_mul_right _ hcard)).symm

/-- Every store that runs reach is sound. -/
theorem Grammar.Reaches.sound {grammar : Grammar κ α} (h : grammar.Reaches session store) :
    session.Sound store := by
  induction h with
  | start hstart => exact Grammar.sound_of_start hstart
  | run input index _ ih => exact (ih.run_spec input index).1

/-- **Adequacy.** From every store that runs leave behind, a run answers exactly what can be derived
for the session's parser. -/
theorem Grammar.Reaches.run_eq_ok_iff {grammar : Grammar κ α} (h : grammar.Reaches session store)
    {outcome : Outcome (Value α)} :
    (session.run store input index).1 = .ok outcome ↔
      Evaluates session.rule? input ⊤ (.parse session.parser index) outcome :=
  (h.sound.run_spec input index).2 outcome

end Runs

end Backtrack
