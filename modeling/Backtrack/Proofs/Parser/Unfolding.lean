import Backtrack.Proofs.Parser.Translation
import Mathlib.Data.List.Zip

/-! # Unfolding

    A deferred parser may be replaced by what its name stands for, anywhere in
    a tree and inside of what was put in its place. The trees look different,
    and so do messages, which show the written form of a part. But no parser
    looks at a message: where it goes on depends on whether a part matched, on
    where the match ends and on the kind of a failure.

    Two runs that are the same but for messages are runs that correspond at
    distance zero (`Outcome.Moved 0 0`).

    * `Covers`: what one task comes to, another one comes to.
    * `covers_congruent`: no combinator looks at messages.
    * `Parser.Unfolds.covers`, `Parser.Unfolds.covered`: both directions. -/

namespace Backtrack

variable {ρ σ α β : Type}

/-! ## §1. Outcomes without messages -/

/-- The same match, or failures of the same kind at the same index. Their messages may differ. -/
def Outcome.SameButMessage : Outcome β → Outcome β → Prop
  | .success s, .success s' => s = s'
  | .failure f, .failure f' => f.kind = f'.kind ∧ f.index = f'.index
  | _, _ => False

theorem Success.Moved.eq {success success' : Success β} (h : success.Moved 0 0 success') :
    success = success' := by
  have htext := h.text
  have hvalue := h.value
  have hindex : success.index = success'.index := h.index
  cases success
  cases success'
  simp_all

theorem Outcome.sameButMessage_iff {outcome outcome' : Outcome β} :
    outcome.SameButMessage outcome' ↔ outcome.Moved 0 0 outcome' := by
  constructor
  · intro h
    cases outcome <;> cases outcome'
    · obtain rfl : _ = _ := h
      exact .success ⟨rfl, rfl, rfl⟩
    · cases h
    · cases h
    · exact .failure ⟨h.1.symm, h.2⟩
  · intro h
    cases h with
    | success h => exact h.eq
    | failure h => exact ⟨h.kind.symm, h.index⟩

/-! ## §2. Tasks that come to the same -/

/-- Whatever the first task comes to at this depth, the second one comes to as well, but for
messages. -/
def Covers (rules : ρ → Option (Parser ρ α)) (rules' : σ → Option (Parser σ α)) (input : Text)
    (depth : ℕ∞) (task : Task ρ α) (task' : Task σ α) : Prop :=
  ∀ outcome, Evaluates rules input depth task outcome →
    ∃ outcome', Evaluates rules' input ⊤ task' outcome' ∧ outcome.Moved 0 0 outcome'

/-- The second parser comes to whatever the first one comes to, at every index. -/
def Parser.Covers (rules : ρ → Option (Parser ρ α)) (rules' : σ → Option (Parser σ α))
    (input : Text) (depth : ℕ∞) (parser : Parser ρ α) (parser' : Parser σ α) : Prop :=
  ∀ index, Backtrack.Covers rules rules' input depth (.parse parser index) (.parse parser' index)

section Combinators

variable {rules : ρ → Option (Parser ρ α)} {rules' : σ → Option (Parser σ α)} {input : Text}
  {depth : ℕ∞} {first next body separator : Parser ρ α}
  {first' next' body' separator' : Parser σ α} {bounds : Bounds}

/-! ## §3. Combinators -/

theorem covers_literal (text : Text) :
    Parser.Covers rules rules' input depth (.literal text) (.literal text) := by
  intro index outcome h
  obtain rfl := evaluates_literal_iff.1 h
  exact ⟨_, .literal text index, matchLiteral_moved (Text.aligned_refl input) rfl text⟩

theorem covers_pattern (expression : Pattern) :
    Parser.Covers rules rules' input depth (.pattern expression) (.pattern expression) := by
  intro index outcome h
  obtain rfl := evaluates_pattern_iff.1 h
  refine ⟨_, .pattern expression index, ?_⟩
  unfold matchPattern
  split
  · exact .success ⟨rfl, rfl, rfl⟩
  · exact .failure ⟨rfl, rfl⟩

theorem covers_sequence (hfirst : first.Covers rules rules' input depth first')
    (hnext : next.Covers rules rules' input depth next') :
    Parser.Covers rules rules' input depth (.sequence first next) (.sequence first' next') := by
  intro index outcome h
  rcases evaluates_sequence_iff.1 h with ⟨failure, h₁, rfl⟩ | ⟨front, h₁, back, h₂, rfl⟩
  · obtain ⟨_, h₁', hmoved⟩ := hfirst index _ h₁
    cases hmoved with
    | failure hfailure => exact ⟨_, .sequenceFails h₁', .failure hfailure⟩
  · obtain ⟨_, h₁', hmoved⟩ := hfirst index _ h₁
    cases hmoved with
    | success hfront =>
      -- The first parts end at the same place, where the second ones begin.
      obtain rfl := hfront.eq
      obtain ⟨_, h₂', hback⟩ := hnext _ _ h₂
      exact ⟨_, .sequence h₁' h₂',
        joinOutcome_moved (Text.aligned_refl input) rfl hfront hback⟩

/-- The alternatives that are left of two choices, where the failures promoted so far are of the
same kind at the same index. -/
theorem covers_choose {all rest : List (Parser ρ α)} {all' rest' : List (Parser σ α)}
    {termination termination' : Option Failure} {index : Nat}
    (hlength : rest.length = rest'.length)
    (each : ∀ pair ∈ rest.zip rest', pair.1.Covers rules rules' input depth pair.2)
    (htermination : Option.Rel (Failure.Moved 0 0) termination termination') :
    Covers rules rules' input depth (.choose all termination rest index)
      (.choose all' termination' rest' index) := by
  induction rest generalizing rest' termination termination' with
  | nil =>
    cases rest' with
    | cons _ _ => cases hlength
    | nil =>
      intro outcome h
      obtain rfl := evaluates_choose_nil_iff.1 h
      exact ⟨_, .exhausted all' termination' index,
        .failure (noneMatched_moved all all' htermination rfl)⟩
  | cons parser rest ih =>
    cases rest' with
    | nil => cases hlength
    | cons parser' rest' =>
      obtain ⟨hparser, hrest⟩ := List.forall_mem_cons.1 each
      intro outcome h
      rcases evaluates_choose_cons_iff.1 h with ⟨success, h₁, rfl⟩ | ⟨failure, h₁, h₂⟩
      · obtain ⟨_, h₁', hmoved⟩ := hparser index _ h₁
        cases hmoved with
        | success hsuccess => exact ⟨_, .chosen h₁', .success hsuccess⟩
      · obtain ⟨_, h₁', hmoved⟩ := hparser index _ h₁
        cases hmoved with
        | failure hfailure =>
          obtain ⟨_, h₂', hlast⟩ := ih (Nat.succ.inj hlength) hrest
            (firstTermination_moved htermination hfailure) outcome h₂
          exact ⟨_, .passedOver h₁' h₂', hlast⟩

theorem covers_choice {alternatives : List (Parser ρ α)} {alternatives' : List (Parser σ α)}
    (hlength : alternatives.length = alternatives'.length)
    (each : ∀ pair ∈ alternatives.zip alternatives',
      pair.1.Covers rules rules' input depth pair.2) :
    Parser.Covers rules rules' input depth (.choice alternatives) (.choice alternatives') := by
  intro index outcome h
  obtain ⟨_, h', hmoved⟩ :=
    covers_choose hlength each .none outcome (evaluates_choice_iff.1 h)
  exact ⟨_, .choice h', hmoved⟩

/-- Two loops over parsers that come to the same go through the same rounds. -/
theorem covers_loop {separator : Option (Parser ρ α)} {separator' : Option (Parser σ α)}
    {start position : Nat} {values : List (Value α)}
    (hbody : body.Covers rules rules' input depth body')
    (hseparator : Option.Rel (Parser.Covers rules rules' input depth) separator separator') :
    Covers rules rules' input depth (.loop body separator bounds start position values)
      (.loop body' separator' bounds start position values) := by
  have haligned := Text.aligned_refl input
  induction hleft : input.size - position using Nat.strong_induction_on
    generalizing position values with
  | _ left ih =>
  subst hleft
  -- A round that is not the last leaves less of the input.
  have covers_round (behind : Nat) (hfrom : position ≤ behind) :
      Covers rules rules' input depth (.round body separator bounds start position behind values)
        (.round body' separator' bounds start position behind values) := by
    intro outcome h
    rcases evaluates_round_iff.1 h with
      ⟨failure, hround, rfl⟩ | ⟨success, hround, ⟨hstop, rfl⟩ | ⟨hstop, hloop⟩⟩
    · obtain ⟨_, hround', hmoved⟩ := hbody behind _ hround
      cases hmoved with
      | failure _ =>
        exact ⟨_, .roundFails hround', endLoop_moved haligned rfl body body' bounds values rfl⟩
    · obtain ⟨_, hround', hmoved⟩ := hbody behind _ hround
      cases hmoved with
      | success hsuccess =>
        obtain rfl := hsuccess.eq
        exact ⟨_, .roundStays hround' hstop, endLoop_moved haligned rfl body body' bounds _ rfl⟩
    · have hlo : behind ≤ success.stop := hround.start_le_stop
      have hhi : success.stop ≤ input.size := hround.stop_le_size
      obtain ⟨_, hround', hmoved⟩ := hbody behind _ hround
      cases hmoved with
      | success hsuccess =>
        obtain rfl := hsuccess.eq
        obtain ⟨_, hloop', hlast⟩ := ih _ (by omega) rfl outcome hloop
        exact ⟨_, .roundMoves hround' hstop hloop', hlast⟩
  intro outcome h
  cases hadmits : bounds.admits values.length with
  | false =>
    obtain rfl := (evaluates_loop_full_iff hadmits).1 h
    exact ⟨_, .full hadmits, endLoop_moved haligned rfl body body' bounds values rfl⟩
  | true =>
    by_cases hnone : separator = none ∨ values = []
    · have hnone' : separator' = none ∨ values = [] := by
        rcases hnone with rfl | hvalues
        · cases hseparator
          exact .inl rfl
        · exact .inr hvalues
      obtain ⟨_, hround', hmoved⟩ := covers_round position (le_refl position) outcome
        ((evaluates_loop_unseparated_iff hadmits hnone).1 h)
      exact ⟨_, .unseparated hadmits hnone' hround', hmoved⟩
    · obtain ⟨hsome, hne⟩ := not_or.1 hnone
      cases hseparator with
      | none => exact absurd rfl hsome
      | some hbetween =>
        rcases (evaluates_loop_separated_iff hadmits hne).1 h with
          ⟨failure, hfails, rfl⟩ | ⟨success, hmatches, hround⟩
        · obtain ⟨_, hfails', hmoved⟩ := hbetween position _ hfails
          cases hmoved with
          | failure _ =>
            exact ⟨_, .separatorFails hadmits hne hfails',
              endLoop_moved haligned rfl body body' bounds values rfl⟩
        · have hfrom : position ≤ success.stop := hmatches.start_le_stop
          obtain ⟨_, hmatches', hmoved⟩ := hbetween position _ hmatches
          cases hmoved with
          | success hsuccess =>
            obtain rfl := hsuccess.eq
            obtain ⟨_, hround', hlast⟩ := covers_round _ hfrom outcome hround
            exact ⟨_, .separatorMatches hadmits hne hmatches' hround', hlast⟩

theorem covers_repetition (bounds : Bounds) (hbody : body.Covers rules rules' input depth body') :
    Parser.Covers rules rules' input depth (.repetition body bounds)
      (.repetition body' bounds) := by
  intro index outcome h
  obtain ⟨_, h', hmoved⟩ := covers_loop hbody .none outcome (evaluates_repetition_iff.1 h)
  exact ⟨_, .repetition h', hmoved⟩

theorem covers_separated (bounds : Bounds) (hbody : body.Covers rules rules' input depth body')
    (hseparator : separator.Covers rules rules' input depth separator') :
    Parser.Covers rules rules' input depth (.separated body separator bounds)
      (.separated body' separator' bounds) := by
  intro index outcome h
  obtain ⟨_, h', hmoved⟩ :=
    covers_loop hbody (.some hseparator) outcome (evaluates_separated_iff.1 h)
  exact ⟨_, .separated h', hmoved⟩

theorem covers_option (hbody : body.Covers rules rules' input depth body') :
    Parser.Covers rules rules' input depth (.option body) (.option body') := by
  intro index outcome h
  obtain ⟨inner, hinner, rfl⟩ := evaluates_option_iff.1 h
  obtain ⟨_, hinner', hmoved⟩ := hbody index inner hinner
  exact ⟨_, .option hinner', orNothing_moved (Text.aligned_refl input) rfl hmoved⟩

theorem covers_negation (hbody : body.Covers rules rules' input depth body') :
    Parser.Covers rules rules' input depth (.negation body) (.negation body') := by
  intro index outcome h
  obtain ⟨inner, hinner, rfl⟩ := evaluates_negation_iff.1 h
  obtain ⟨_, hinner', hmoved⟩ := hbody index inner hinner
  exact ⟨_, .negation hinner', inverted_moved (Text.aligned_refl input) rfl body body' hmoved⟩

theorem covers_anchored (hbody : body.Covers rules rules' input depth body') :
    Parser.Covers rules rules' input depth (.anchored body) (.anchored body') := by
  intro index outcome h
  obtain ⟨inner, hinner, rfl⟩ := evaluates_anchored_iff.1 h
  obtain ⟨_, hinner', hmoved⟩ := hbody index inner hinner
  exact ⟨_, .anchored hinner', atEnd_moved (Text.aligned_refl input) hmoved⟩

theorem covers_mapped (convert : Value α → Value α)
    (hbody : body.Covers rules rules' input depth body') :
    Parser.Covers rules rules' input depth (.mapped body convert) (.mapped body' convert) := by
  intro index outcome h
  obtain ⟨inner, hinner, rfl⟩ := evaluates_mapped_iff.1 h
  obtain ⟨_, hinner', hmoved⟩ := hbody index inner hinner
  exact ⟨_, .mapped hinner', mapOutcome_moved hmoved convert⟩

theorem covers_converted (convert : Value α → Except String (Value α))
    (hbody : body.Covers rules rules' input depth body') :
    Parser.Covers rules rules' input depth (.converted body convert)
      (.converted body' convert) := by
  intro index outcome h
  obtain ⟨inner, hinner, rfl⟩ := evaluates_converted_iff.1 h
  obtain ⟨_, hinner', hmoved⟩ := hbody index inner hinner
  exact ⟨_, .converted hinner', convertOutcome_moved hmoved body body' convert rfl⟩

/-! ## §4. Names -/

/-- At depth zero no rule can be entered. -/
theorem covers_deferred_zero (name : ρ) (parser' : Parser σ α) :
    Parser.Covers rules rules' input 0 (.deferred name) parser' := by
  intro index outcome h
  exact absurd h not_evaluates_deferred_zero

/-- A name comes to no more than what it stands for. -/
theorem covers_deferred_left {name : ρ} {parser : Parser ρ α} {parser' : Parser σ α}
    (hrule : rules name = some parser) (h : parser.Covers rules rules' input depth parser') :
    Parser.Covers rules rules' input depth (.deferred name) parser' := by
  intro index outcome hname
  cases hname with
  | @deferred _ inner _ other _ _ hother hdepth hinner =>
    obtain rfl : parser = other := Option.some.inj (hrule.symm.trans hother)
    have hle : inner ≤ depth := le_self_add.trans hdepth
    exact h index outcome (hinner.mono hle)

/-- A name comes to no less than what it stands for. -/
theorem covers_deferred_right {name' : σ} {parser : Parser ρ α} {parser' : Parser σ α}
    (hrule' : rules' name' = some parser') (h : parser.Covers rules rules' input depth parser') :
    Parser.Covers rules rules' input depth parser (.deferred name') := by
  intro index outcome hparser
  obtain ⟨outcome', h', hmoved⟩ := h index outcome hparser
  exact ⟨outcome', .deferred hrule' le_top h', hmoved⟩

/-- A name comes to what another name comes to, if that is so of what they stand for with one rule
less to enter. -/
theorem covers_deferred_succ {depth : ℕ} {name : ρ} {name' : σ}
    (h : ∀ parser, rules name = some parser →
      ∃ parser', rules' name' = some parser' ∧ parser.Covers rules rules' input depth parser') :
    Parser.Covers rules rules' input (depth + 1 : ℕ) (.deferred name) (.deferred name') := by
  intro index outcome hname
  obtain ⟨parser, hrule, hparser⟩ := evaluates_deferred_succ_iff.1 hname
  obtain ⟨parser', hrule', hcovers⟩ := h parser hrule
  exact covers_deferred_right hrule' hcovers index outcome hparser

/-! ## §5. All combinators -/

/-- A relation that goes through every combinator. -/
structure Parser.Congruence (r : Parser ρ α → Parser σ α → Prop) : Prop where
  literal : ∀ text, r (.literal text) (.literal text)
  pattern : ∀ expression, r (.pattern expression) (.pattern expression)
  sequence : ∀ {first next first' next'}, r first first' → r next next' →
    r (.sequence first next) (.sequence first' next')
  choice : ∀ {alternatives alternatives'}, alternatives.length = alternatives'.length →
    (∀ pair ∈ alternatives.zip alternatives', r pair.1 pair.2) →
    r (.choice alternatives) (.choice alternatives')
  repetition : ∀ {body body'} bounds, r body body' →
    r (.repetition body bounds) (.repetition body' bounds)
  separated : ∀ {body separator body' separator'} bounds, r body body' →
    r separator separator' → r (.separated body separator bounds)
      (.separated body' separator' bounds)
  option : ∀ {body body'}, r body body' → r (.option body) (.option body')
  negation : ∀ {body body'}, r body body' → r (.negation body) (.negation body')
  anchored : ∀ {body body'}, r body body' → r (.anchored body) (.anchored body')
  mapped : ∀ {body body'} convert, r body body' → r (.mapped body convert) (.mapped body' convert)
  converted : ∀ {body body'} convert, r body body' →
    r (.converted body convert) (.converted body' convert)

/-- **No combinator looks at messages.** What the parts of a parser come to, but for messages,
settles what the parser comes to. -/
theorem covers_congruent (rules : ρ → Option (Parser ρ α)) (rules' : σ → Option (Parser σ α))
    (input : Text) (depth : ℕ∞) : Parser.Congruence (Parser.Covers rules rules' input depth) where
  literal := covers_literal
  pattern := covers_pattern
  sequence := covers_sequence
  choice := covers_choice
  repetition := covers_repetition
  separated := covers_separated
  option := covers_option
  negation := covers_negation
  anchored := covers_anchored
  mapped := covers_mapped
  converted := covers_converted

/-- Such a relation read from right to left is one, too. -/
theorem Parser.Congruence.flip {r : Parser ρ α → Parser σ α → Prop} (h : Parser.Congruence r) :
    Parser.Congruence (fun parser' parser => r parser parser') where
  literal := h.literal
  pattern := h.pattern
  sequence := h.sequence
  choice hlength each := by
    refine h.choice hlength.symm fun pair hmem => each pair.swap ?_
    rw [← List.zip_swap]
    exact List.mem_map_of_mem hmem
  repetition := h.repetition
  separated := h.separated
  option := h.option
  negation := h.negation
  anchored := h.anchored
  mapped := h.mapped
  converted := h.converted

end Combinators

/-! ## §6. Unfolded parsers -/

/-- The second parser is the first one with some of its names replaced by what they stand for, in
which names may be replaced in turn. The names that are left are read in the first parser's rules by
way of `origin`, so that one rule may be unfolded differently in different places. -/
inductive Parser.Unfolds (rules : ρ → Option (Parser ρ α)) (origin : σ → ρ) :
    Parser ρ α → Parser σ α → Prop where
  | literal (text : Text) : Unfolds rules origin (.literal text) (.literal text)
  | pattern (expression : Pattern) :
      Unfolds rules origin (.pattern expression) (.pattern expression)
  | sequence {first next : Parser ρ α} {first' next' : Parser σ α} :
      Unfolds rules origin first first' → Unfolds rules origin next next' →
      Unfolds rules origin (.sequence first next) (.sequence first' next')
  | choice {alternatives : List (Parser ρ α)} {alternatives' : List (Parser σ α)} :
      alternatives.length = alternatives'.length →
      (∀ pair ∈ alternatives.zip alternatives', Unfolds rules origin pair.1 pair.2) →
      Unfolds rules origin (.choice alternatives) (.choice alternatives')
  | repetition {body : Parser ρ α} {body' : Parser σ α} (bounds : Bounds) :
      Unfolds rules origin body body' →
      Unfolds rules origin (.repetition body bounds) (.repetition body' bounds)
  | separated {body separator : Parser ρ α} {body' separator' : Parser σ α} (bounds : Bounds) :
      Unfolds rules origin body body' → Unfolds rules origin separator separator' →
      Unfolds rules origin (.separated body separator bounds) (.separated body' separator' bounds)
  | option {body : Parser ρ α} {body' : Parser σ α} :
      Unfolds rules origin body body' → Unfolds rules origin (.option body) (.option body')
  | negation {body : Parser ρ α} {body' : Parser σ α} :
      Unfolds rules origin body body' → Unfolds rules origin (.negation body) (.negation body')
  | anchored {body : Parser ρ α} {body' : Parser σ α} :
      Unfolds rules origin body body' → Unfolds rules origin (.anchored body) (.anchored body')
  | mapped {body : Parser ρ α} {body' : Parser σ α} (convert : Value α → Value α) :
      Unfolds rules origin body body' →
      Unfolds rules origin (.mapped body convert) (.mapped body' convert)
  | converted {body : Parser ρ α} {body' : Parser σ α}
      (convert : Value α → Except String (Value α)) :
      Unfolds rules origin body body' →
      Unfolds rules origin (.converted body convert) (.converted body' convert)
  /-- A name that is left as it is. -/
  | deferred (name : σ) : Unfolds rules origin (.deferred (origin name)) (.deferred name)
  /-- A name that is replaced. -/
  | unfolded {name : ρ} {parser : Parser ρ α} {parser' : Parser σ α} :
      rules name = some parser → Unfolds rules origin parser parser' →
      Unfolds rules origin (.deferred name) parser'

section Unfolding

variable {rules : ρ → Option (Parser ρ α)} {rules' : σ → Option (Parser σ α)} {origin : σ → ρ}
  {parser : Parser ρ α} {parser' : Parser σ α} {input : Text}

/-- What holds of names, and goes through every combinator, holds of unfolded parsers. -/
theorem Parser.Unfolds.of_congruence {r : Parser ρ α → Parser σ α → Prop}
    (h : parser.Unfolds rules origin parser') (hr : Parser.Congruence r)
    (hdeferred : ∀ name, r (.deferred (origin name)) (.deferred name))
    (hunfolded : ∀ name parser parser', rules name = some parser → r parser parser' →
      r (.deferred name) parser') : r parser parser' := by
  induction h with
  | literal text => exact hr.literal text
  | pattern expression => exact hr.pattern expression
  | sequence _ _ hfirst hnext => exact hr.sequence hfirst hnext
  | choice hlength _ ih => exact hr.choice hlength ih
  | repetition bounds _ ih => exact hr.repetition bounds ih
  | separated bounds _ _ hbody hseparator => exact hr.separated bounds hbody hseparator
  | option _ ih => exact hr.option ih
  | negation _ ih => exact hr.negation ih
  | anchored _ ih => exact hr.anchored ih
  | mapped convert _ ih => exact hr.mapped convert ih
  | converted convert _ ih => exact hr.converted convert ih
  | deferred name => exact hdeferred name
  | unfolded hrule _ ih => exact hunfolded _ _ _ hrule ih

variable (hrules : ∀ name, Option.Rel (Parser.Unfolds rules origin) (rules (origin name))
  (rules' name))
include hrules

/-- What goes through every combinator at every depth holds of unfolded parsers at every depth, if
it holds of names one deeper than it holds of what they stand for. -/
theorem Parser.Unfolds.of_congruences {r : ℕ → Parser ρ α → Parser σ α → Prop}
    (h : parser.Unfolds rules origin parser') (hr : ∀ depth, Parser.Congruence (r depth))
    (hunfolded : ∀ depth name parser parser', rules name = some parser →
      r depth parser parser' → r depth (.deferred name) parser')
    (hzero : ∀ name, r 0 (.deferred (origin name)) (.deferred name))
    (hsucc : ∀ depth name, Option.Rel (r depth) (rules (origin name)) (rules' name) →
      r (depth + 1) (.deferred (origin name)) (.deferred name))
    (depth : ℕ) : r depth parser parser' := by
  -- On the depth for the names that are left, and at each depth over the tree.
  induction depth generalizing parser parser' with
  | zero => exact h.of_congruence (hr 0) hzero (hunfolded 0)
  | succ depth ih =>
    refine h.of_congruence (hr _) (fun name => hsucc depth name ?_) (hunfolded _)
    have hname := hrules name
    generalize rules (origin name) = found, rules' name = found' at hname ⊢
    cases hname with
    | none => exact .none
    | some hunfolds => exact .some (ih hunfolds)

/-- An unfolded parser comes to what the parser comes to. -/
theorem Parser.Unfolds.covers (h : parser.Unfolds rules origin parser') (depth : ℕ) :
    parser.Covers rules rules' input depth parser' := by
  refine h.of_congruences hrules (fun depth => covers_congruent rules rules' input depth)
    (fun _ _ _ _ => covers_deferred_left)
    (fun name => covers_deferred_zero (origin name) (.deferred name))
    (fun depth name hname => covers_deferred_succ fun inner hrule => ?_) depth
  rw [hrule] at hname
  generalize rules' name = found at hname ⊢
  cases hname with
  | some hcovers => exact ⟨_, rfl, hcovers⟩

/-- A parser comes to what it comes to unfolded. -/
theorem Parser.Unfolds.covered (h : parser.Unfolds rules origin parser') (depth : ℕ) :
    parser'.Covers rules' rules input depth parser := by
  refine h.of_congruences hrules (fun depth => (covers_congruent rules' rules input depth).flip)
    (fun _ _ _ _ => covers_deferred_right)
    (fun name => covers_deferred_zero name (.deferred (origin name)))
    (fun depth name hname => covers_deferred_succ fun inner' hrule' => ?_) depth
  rw [hrule'] at hname
  generalize rules (origin name) = found at hname ⊢
  cases hname with
  | some hcovers => exact ⟨_, rfl, hcovers⟩

/-- **Unfolding is transparent.** What can be derived for a parser can be derived for it unfolded,
and the other way around, but for messages. -/
theorem Parser.Unfolds.transparent (h : parser.Unfolds rules origin parser') (index : Nat) :
    (∀ outcome, Evaluates rules input ⊤ (.parse parser index) outcome →
      ∃ outcome', Evaluates rules' input ⊤ (.parse parser' index) outcome' ∧
        outcome.SameButMessage outcome') ∧
    ∀ outcome', Evaluates rules' input ⊤ (.parse parser' index) outcome' →
      ∃ outcome, Evaluates rules input ⊤ (.parse parser index) outcome ∧
        outcome.SameButMessage outcome' := by
  constructor
  · intro outcome hevaluates
    obtain ⟨depth, hevaluates⟩ := hevaluates.exists_depth
    obtain ⟨outcome', h', hmoved⟩ := h.covers hrules depth index outcome hevaluates
    exact ⟨outcome', h', Outcome.sameButMessage_iff.2 hmoved⟩
  · intro outcome' hevaluates'
    obtain ⟨depth, hevaluates'⟩ := hevaluates'.exists_depth
    obtain ⟨outcome, h', hmoved⟩ := h.covered hrules depth index outcome' hevaluates'
    exact ⟨outcome, h', Outcome.sameButMessage_iff.2 hmoved.symm⟩

end Unfolding

end Backtrack
