import Mathlib.Data.ENat.Basic
import Backtrack.Parser.Evaluate
import Backtrack.Proofs.Parser.Names

/-! # Evaluation

    What a parser answers, as a relation. There is no bound on the rounds of
    a repetition and none on the length of a derivation, so a parser for
    which a derivation exists is one that ends with this answer.

    A derivation carries a *depth*, which is how many rules it may enter one
    inside the other. At depth `⊤` there is no limit, and this is the meaning
    of a parser. At a finite depth it is what a run can find out that enters
    no more rules than that.

    * `Evaluates.deterministic`: there is at most one answer.
    * `Evaluates.mono`: a greater depth keeps it.
    * `Evaluates.exists_depth`: a derivation enters finitely many rules.
    * §4 takes a derivation apart, one equivalence for each combinator. -/

namespace Backtrack

variable {ρ α : Type}

/-! ## §1. Tasks -/

/-- What a derivation can be about. -/
inductive Task (ρ α : Type) where
  /-- A parser at an index. -/
  | parse (parser : Parser ρ α) (index : Nat)
  /-- The alternatives that are left of a choice, where `termination` is the first of the earlier
  failures to reach the end of the input. -/
  | choose (all : List (Parser ρ α)) (termination : Option Failure) (rest : List (Parser ρ α))
      (index : Nat)
  /-- What is left of a repetition that started at `start` and has come to `position` with these
  values, the latest first. -/
  | loop (body : Parser ρ α) (separator : Option (Parser ρ α)) (bounds : Bounds)
      (start position : Nat) (values : List (Value α))
  /-- The same behind the separator, where the body comes next. -/
  | round (body : Parser ρ α) (separator : Option (Parser ρ α)) (bounds : Bounds)
      (start position behind : Nat) (values : List (Value α))

/-- The index at which a match begins that the task leads to. -/
def Task.start : Task ρ α → Nat
  | parse _ index => index
  | choose _ _ _ index => index
  | loop _ _ _ start _ _ => start
  | round _ _ _ start _ _ _ => start

/-- The first failure to reach the end of the input, after one more failure. -/
def firstTermination (termination : Option Failure) (failure : Failure) : Option Failure :=
  if termination.isNone && failure.kind = .termination then some failure else termination

theorem firstTermination_of_termination {termination : Option Failure} {failure : Failure}
    (h : failure.kind = .termination) :
    firstTermination termination failure = some (termination.getD failure) := by
  cases termination with
  | none => simp [firstTermination, h]
  | some first => simp [firstTermination]

theorem firstTermination_of_ne {termination : Option Failure} {failure : Failure}
    (h : failure.kind ≠ .termination) : firstTermination termination failure = termination := by
  simp [firstTermination, h]

/-- What a sequence makes of the outcome of its second part. -/
def joinOutcome (input : Text) (index : Nat) (front : Success (Value α)) :
    Outcome (Value α) → Outcome (Value α)
  | .failure failure => .failure failure
  | .success back => joinSequence input index front back

/-- What a repetition comes to that ends at `position` with these values, the latest first. -/
def endLoop (input : Text) (body : Parser ρ α) (bounds : Bounds) (start position : Nat)
    (values : List (Value α)) : Outcome (Value α) :=
  finishRounds input body bounds start ⟨values.reverse, position⟩

/-! ## §2. The relation -/

/-- The outcome of a task, where a name stands for the parser that `rules` gives it. -/
inductive Evaluates (rules : ρ → Option (Parser ρ α)) (input : Text) :
    ℕ∞ → Task ρ α → Outcome (Value α) → Prop where
  | literal {depth : ℕ∞} (text : Text) (index : Nat) :
      Evaluates rules input depth (.parse (.literal text) index) (matchLiteral input text index)
  | pattern {depth : ℕ∞} (expression : Pattern) (index : Nat) :
      Evaluates rules input depth (.parse (.pattern expression) index)
        (matchPattern input expression index)
  | sequenceFails {depth : ℕ∞} {first next : Parser ρ α} {index : Nat} {failure : Failure} :
      Evaluates rules input depth (.parse first index) (.failure failure) →
      Evaluates rules input depth (.parse (.sequence first next) index) (.failure failure)
  | sequence {depth : ℕ∞} {first next : Parser ρ α} {index : Nat} {front : Success (Value α)}
      {outcome : Outcome (Value α)} :
      Evaluates rules input depth (.parse first index) (.success front) →
      Evaluates rules input depth (.parse next front.stop) outcome →
      Evaluates rules input depth (.parse (.sequence first next) index)
        (joinOutcome input index front outcome)
  | choice {depth : ℕ∞} {alternatives : List (Parser ρ α)} {index : Nat}
      {outcome : Outcome (Value α)} :
      Evaluates rules input depth (.choose alternatives none alternatives index) outcome →
      Evaluates rules input depth (.parse (.choice alternatives) index) outcome
  | exhausted {depth : ℕ∞} (all : List (Parser ρ α)) (termination : Option Failure)
      (index : Nat) :
      Evaluates rules input depth (.choose all termination [] index)
        (.failure (noneMatched all index termination))
  | chosen {depth : ℕ∞} {all rest : List (Parser ρ α)} {termination : Option Failure}
      {parser : Parser ρ α} {index : Nat} {success : Success (Value α)} :
      Evaluates rules input depth (.parse parser index) (.success success) →
      Evaluates rules input depth (.choose all termination (parser :: rest) index)
        (.success success)
  | passedOver {depth : ℕ∞} {all rest : List (Parser ρ α)} {termination : Option Failure}
      {parser : Parser ρ α} {index : Nat} {failure : Failure} {outcome : Outcome (Value α)} :
      Evaluates rules input depth (.parse parser index) (.failure failure) →
      Evaluates rules input depth (.choose all (firstTermination termination failure) rest index)
        outcome →
      Evaluates rules input depth (.choose all termination (parser :: rest) index) outcome
  | repetition {depth : ℕ∞} {body : Parser ρ α} {bounds : Bounds} {index : Nat}
      {outcome : Outcome (Value α)} :
      Evaluates rules input depth (.loop body none bounds index index []) outcome →
      Evaluates rules input depth (.parse (.repetition body bounds) index) outcome
  | separated {depth : ℕ∞} {body separator : Parser ρ α} {bounds : Bounds} {index : Nat}
      {outcome : Outcome (Value α)} :
      Evaluates rules input depth (.loop body (some separator) bounds index index []) outcome →
      Evaluates rules input depth (.parse (.separated body separator bounds) index) outcome
  /-- As many values as there may be. -/
  | full {depth : ℕ∞} {body : Parser ρ α} {separator : Option (Parser ρ α)} {bounds : Bounds}
      {start position : Nat} {values : List (Value α)} :
      bounds.admits values.length = false →
      Evaluates rules input depth (.loop body separator bounds start position values)
        (endLoop input body bounds start position values)
  /-- No separator stands in front of the first round, nor where there is none. -/
  | unseparated {depth : ℕ∞} {body : Parser ρ α} {separator : Option (Parser ρ α)}
      {bounds : Bounds} {start position : Nat} {values : List (Value α)}
      {outcome : Outcome (Value α)} :
      bounds.admits values.length = true → separator = none ∨ values = [] →
      Evaluates rules input depth (.round body separator bounds start position position values)
        outcome →
      Evaluates rules input depth (.loop body separator bounds start position values) outcome
  | separatorFails {depth : ℕ∞} {body separator : Parser ρ α} {bounds : Bounds}
      {start position : Nat} {values : List (Value α)} {failure : Failure} :
      bounds.admits values.length = true → values ≠ [] →
      Evaluates rules input depth (.parse separator position) (.failure failure) →
      Evaluates rules input depth (.loop body (some separator) bounds start position values)
        (endLoop input body bounds start position values)
  | separatorMatches {depth : ℕ∞} {body separator : Parser ρ α} {bounds : Bounds}
      {start position : Nat} {values : List (Value α)} {success : Success (Value α)}
      {outcome : Outcome (Value α)} :
      bounds.admits values.length = true → values ≠ [] →
      Evaluates rules input depth (.parse separator position) (.success success) →
      Evaluates rules input depth
        (.round body (some separator) bounds start position success.stop values) outcome →
      Evaluates rules input depth (.loop body (some separator) bounds start position values)
        outcome
  | roundFails {depth : ℕ∞} {body : Parser ρ α} {separator : Option (Parser ρ α)}
      {bounds : Bounds} {start position behind : Nat} {values : List (Value α)}
      {failure : Failure} :
      Evaluates rules input depth (.parse body behind) (.failure failure) →
      Evaluates rules input depth (.round body separator bounds start position behind values)
        (endLoop input body bounds start behind values)
  /-- A round that ends where its separator started is the last. -/
  | roundStays {depth : ℕ∞} {body : Parser ρ α} {separator : Option (Parser ρ α)}
      {bounds : Bounds} {start position behind : Nat} {values : List (Value α)}
      {success : Success (Value α)} :
      Evaluates rules input depth (.parse body behind) (.success success) →
      success.stop = position →
      Evaluates rules input depth (.round body separator bounds start position behind values)
        (endLoop input body bounds start position (success.value :: values))
  | roundMoves {depth : ℕ∞} {body : Parser ρ α} {separator : Option (Parser ρ α)}
      {bounds : Bounds} {start position behind : Nat} {values : List (Value α)}
      {success : Success (Value α)} {outcome : Outcome (Value α)} :
      Evaluates rules input depth (.parse body behind) (.success success) →
      success.stop ≠ position →
      Evaluates rules input depth
        (.loop body separator bounds start success.stop (success.value :: values)) outcome →
      Evaluates rules input depth (.round body separator bounds start position behind values)
        outcome
  | option {depth : ℕ∞} {body : Parser ρ α} {index : Nat} {outcome : Outcome (Value α)} :
      Evaluates rules input depth (.parse body index) outcome →
      Evaluates rules input depth (.parse (.option body) index) (orNothing input index outcome)
  | negation {depth : ℕ∞} {body : Parser ρ α} {index : Nat} {outcome : Outcome (Value α)} :
      Evaluates rules input depth (.parse body index) outcome →
      Evaluates rules input depth (.parse (.negation body) index)
        (inverted input body index outcome)
  | anchored {depth : ℕ∞} {body : Parser ρ α} {index : Nat} {outcome : Outcome (Value α)} :
      Evaluates rules input depth (.parse body index) outcome →
      Evaluates rules input depth (.parse (.anchored body) index) (atEnd input outcome)
  | mapped {depth : ℕ∞} {body : Parser ρ α} {convert : Value α → Value α} {index : Nat}
      {outcome : Outcome (Value α)} :
      Evaluates rules input depth (.parse body index) outcome →
      Evaluates rules input depth (.parse (.mapped body convert) index)
        (mapOutcome convert outcome)
  | converted {depth : ℕ∞} {body : Parser ρ α}
      {convert : Value α → Except String (Value α)} {index : Nat}
      {outcome : Outcome (Value α)} :
      Evaluates rules input depth (.parse body index) outcome →
      Evaluates rules input depth (.parse (.converted body convert) index)
        (convertOutcome body convert index outcome)
  | deferred {depth inner : ℕ∞} {name : ρ} {parser : Parser ρ α} {index : Nat}
      {outcome : Outcome (Value α)} :
      rules name = some parser → inner + 1 ≤ depth →
      Evaluates rules input inner (.parse parser index) outcome →
      Evaluates rules input depth (.parse (.deferred name) index) outcome

namespace Evaluates

variable {rules : ρ → Option (Parser ρ α)} {input : Text} {depth depth' : ℕ∞} {task : Task ρ α}
  {outcome outcome' : Outcome (Value α)}

/-! ## §3. Depth and determinism -/

/-- A greater depth keeps every outcome. -/
theorem mono (h : Evaluates rules input depth task outcome) (hle : depth ≤ depth') :
    Evaluates rules input depth' task outcome := by
  -- The depth is asked for where a rule is entered, and handed on everywhere else.
  induction h generalizing depth' with
  | literal text index => exact .literal text index
  | pattern expression index => exact .pattern expression index
  | sequenceFails _ ih => exact .sequenceFails (ih hle)
  | sequence _ _ ih₁ ih₂ => exact .sequence (ih₁ hle) (ih₂ hle)
  | choice _ ih => exact .choice (ih hle)
  | exhausted all termination index => exact .exhausted all termination index
  | chosen _ ih => exact .chosen (ih hle)
  | passedOver _ _ ih₁ ih₂ => exact .passedOver (ih₁ hle) (ih₂ hle)
  | repetition _ ih => exact .repetition (ih hle)
  | separated _ ih => exact .separated (ih hle)
  | full hadmits => exact .full hadmits
  | unseparated hadmits hsep _ ih => exact .unseparated hadmits hsep (ih hle)
  | separatorFails hadmits hne _ ih => exact .separatorFails hadmits hne (ih hle)
  | separatorMatches hadmits hne _ _ ih₁ ih₂ =>
    exact .separatorMatches hadmits hne (ih₁ hle) (ih₂ hle)
  | roundFails _ ih => exact .roundFails (ih hle)
  | roundStays _ hstop ih => exact .roundStays (ih hle) hstop
  | roundMoves _ hstop _ ih₁ ih₂ => exact .roundMoves (ih₁ hle) hstop (ih₂ hle)
  | option _ ih => exact .option (ih hle)
  | negation _ ih => exact .negation (ih hle)
  | anchored _ ih => exact .anchored (ih hle)
  | mapped _ ih => exact .mapped (ih hle)
  | converted _ ih => exact .converted (ih hle)
  | deferred hrule hdepth h _ => exact .deferred hrule (hdepth.trans hle) h

/-- A derivation enters finitely many rules one inside the other. -/
theorem exists_depth (h : Evaluates rules input depth task outcome) :
    ∃ n : ℕ, Evaluates rules input n task outcome := by
  -- Two derivations of one task are brought to the greater of their depths.
  have lift {m n : ℕ} (hle : m ≤ n) {task : Task ρ α} {outcome : Outcome (Value α)}
      (h : Evaluates rules input m task outcome) : Evaluates rules input n task outcome :=
    h.mono (by exact_mod_cast hle)
  induction h with
  | literal text index => exact ⟨0, .literal text index⟩
  | pattern expression index => exact ⟨0, .pattern expression index⟩
  | sequenceFails _ ih =>
    obtain ⟨n, h⟩ := ih
    exact ⟨n, .sequenceFails h⟩
  | sequence _ _ ih₁ ih₂ =>
    obtain ⟨m, h₁⟩ := ih₁
    obtain ⟨n, h₂⟩ := ih₂
    exact ⟨max m n, .sequence (lift (le_max_left m n) h₁) (lift (le_max_right m n) h₂)⟩
  | choice _ ih =>
    obtain ⟨n, h⟩ := ih
    exact ⟨n, .choice h⟩
  | exhausted all termination index => exact ⟨0, .exhausted all termination index⟩
  | chosen _ ih =>
    obtain ⟨n, h⟩ := ih
    exact ⟨n, .chosen h⟩
  | passedOver _ _ ih₁ ih₂ =>
    obtain ⟨m, h₁⟩ := ih₁
    obtain ⟨n, h₂⟩ := ih₂
    exact ⟨max m n, .passedOver (lift (le_max_left m n) h₁) (lift (le_max_right m n) h₂)⟩
  | repetition _ ih =>
    obtain ⟨n, h⟩ := ih
    exact ⟨n, .repetition h⟩
  | separated _ ih =>
    obtain ⟨n, h⟩ := ih
    exact ⟨n, .separated h⟩
  | full hadmits => exact ⟨0, .full hadmits⟩
  | unseparated hadmits hsep _ ih =>
    obtain ⟨n, h⟩ := ih
    exact ⟨n, .unseparated hadmits hsep h⟩
  | separatorFails hadmits hne _ ih =>
    obtain ⟨n, h⟩ := ih
    exact ⟨n, .separatorFails hadmits hne h⟩
  | separatorMatches hadmits hne _ _ ih₁ ih₂ =>
    obtain ⟨m, h₁⟩ := ih₁
    obtain ⟨n, h₂⟩ := ih₂
    exact ⟨max m n, .separatorMatches hadmits hne (lift (le_max_left m n) h₁)
      (lift (le_max_right m n) h₂)⟩
  | roundFails _ ih =>
    obtain ⟨n, h⟩ := ih
    exact ⟨n, .roundFails h⟩
  | roundStays _ hstop ih =>
    obtain ⟨n, h⟩ := ih
    exact ⟨n, .roundStays h hstop⟩
  | roundMoves _ hstop _ ih₁ ih₂ =>
    obtain ⟨m, h₁⟩ := ih₁
    obtain ⟨n, h₂⟩ := ih₂
    exact ⟨max m n, .roundMoves (lift (le_max_left m n) h₁) hstop (lift (le_max_right m n) h₂)⟩
  | option _ ih =>
    obtain ⟨n, h⟩ := ih
    exact ⟨n, .option h⟩
  | negation _ ih =>
    obtain ⟨n, h⟩ := ih
    exact ⟨n, .negation h⟩
  | anchored _ ih =>
    obtain ⟨n, h⟩ := ih
    exact ⟨n, .anchored h⟩
  | mapped _ ih =>
    obtain ⟨n, h⟩ := ih
    exact ⟨n, .mapped h⟩
  | converted _ ih =>
    obtain ⟨n, h⟩ := ih
    exact ⟨n, .converted h⟩
  | deferred hrule _ _ ih =>
    obtain ⟨n, h⟩ := ih
    exact ⟨n + 1, .deferred hrule (by exact_mod_cast le_refl (n + 1)) h⟩

/-- A task has one outcome at most. -/
theorem deterministic (h : Evaluates rules input depth task outcome)
    (h' : Evaluates rules input depth' task outcome') : outcome = outcome' := by
  induction h generalizing depth' outcome' with
  | literal text index => cases h'; rfl
  | pattern expression index => cases h'; rfl
  | sequenceFails _ ih =>
    cases h' with
    | sequenceFails h₁ => exact ih h₁
    | sequence h₁ _ => cases ih h₁
  | sequence _ _ ih₁ ih₂ =>
    cases h' with
    | sequenceFails h₁ => cases ih₁ h₁
    | sequence h₁ h₂ =>
      cases ih₁ h₁
      rw [ih₂ h₂]
  | choice _ ih =>
    cases h' with
    | choice h₁ => exact ih h₁
  | exhausted all termination index => cases h'; rfl
  | chosen _ ih =>
    cases h' with
    | chosen h₁ => exact ih h₁
    | passedOver h₁ _ => cases ih h₁
  | passedOver _ _ ih₁ ih₂ =>
    cases h' with
    | chosen h₁ => cases ih₁ h₁
    | passedOver h₁ h₂ =>
      cases ih₁ h₁
      exact ih₂ h₂
  | repetition _ ih =>
    cases h' with
    | repetition h₁ => exact ih h₁
  | separated _ ih =>
    cases h' with
    | separated h₁ => exact ih h₁
  | full hadmits =>
    -- The other rules for a loop ask for bounds that admit one more value.
    cases h' with
    | full _ => rfl
    | unseparated hadmits' _ _ => simp [hadmits] at hadmits'
    | separatorFails hadmits' _ _ => simp [hadmits] at hadmits'
    | separatorMatches hadmits' _ _ _ => simp [hadmits] at hadmits'
  | unseparated hadmits hsep _ ih =>
    -- Whether a separator comes next is settled by the values there are.
    cases h' with
    | full hadmits' => simp [hadmits] at hadmits'
    | unseparated _ _ h₁ => exact ih h₁
    | separatorFails _ hne _ => simp [hne] at hsep
    | separatorMatches _ hne _ _ => simp [hne] at hsep
  | separatorFails hadmits hne _ ih =>
    cases h' with
    | full hadmits' => simp [hadmits] at hadmits'
    | unseparated _ hsep _ => simp [hne] at hsep
    | separatorFails _ _ _ => rfl
    | separatorMatches _ _ h₁ _ => cases ih h₁
  | separatorMatches hadmits hne _ _ ih₁ ih₂ =>
    cases h' with
    | full hadmits' => simp [hadmits] at hadmits'
    | unseparated _ hsep _ => simp [hne] at hsep
    | separatorFails _ _ h₁ => cases ih₁ h₁
    | separatorMatches _ _ h₁ h₂ =>
      cases ih₁ h₁
      exact ih₂ h₂
  | roundFails _ ih =>
    cases h' with
    | roundFails _ => rfl
    | roundStays h₁ _ => cases ih h₁
    | roundMoves h₁ _ _ => cases ih h₁
  | roundStays _ hstop ih =>
    -- The body stops in one place, so both derivations see the same progress or none.
    cases h' with
    | roundFails h₁ => cases ih h₁
    | roundStays h₁ _ =>
      cases ih h₁
      rfl
    | roundMoves h₁ hstop' _ =>
      cases ih h₁
      exact absurd hstop hstop'
  | roundMoves _ hstop _ ih₁ ih₂ =>
    cases h' with
    | roundFails h₁ => cases ih₁ h₁
    | roundStays h₁ hstop' =>
      cases ih₁ h₁
      exact absurd hstop' hstop
    | roundMoves h₁ _ h₂ =>
      cases ih₁ h₁
      exact ih₂ h₂
  | option _ ih =>
    cases h' with
    | option h₁ => rw [ih h₁]
  | negation _ ih =>
    cases h' with
    | negation h₁ => rw [ih h₁]
  | anchored _ ih =>
    cases h' with
    | anchored h₁ => rw [ih h₁]
  | mapped _ ih =>
    cases h' with
    | mapped h₁ => rw [ih h₁]
  | converted _ ih =>
    cases h' with
    | converted h₁ => rw [ih h₁]
  | deferred hrule _ _ ih =>
    cases h' with
    | deferred hrule' _ h₁ =>
      rw [hrule] at hrule'
      cases hrule'
      exact ih h₁

end Evaluates

/-! ## §4. Derivations taken apart -/

section Inversion

variable {rules : ρ → Option (Parser ρ α)} {input : Text} {depth : ℕ∞}
  {first next body separator parser : Parser ρ α} {all rest : List (Parser ρ α)}
  {bounds : Bounds} {termination : Option Failure} {index start position behind : Nat}
  {values : List (Value α)} {outcome : Outcome (Value α)}

theorem evaluates_literal_iff {text : Text} :
    Evaluates rules input depth (.parse (.literal text) index) outcome ↔
      outcome = matchLiteral input text index := by
  constructor
  · intro h
    cases h
    rfl
  · rintro rfl
    exact .literal text index

theorem evaluates_pattern_iff {expression : Pattern} :
    Evaluates rules input depth (.parse (.pattern expression) index) outcome ↔
      outcome = matchPattern input expression index := by
  constructor
  · intro h
    cases h
    rfl
  · rintro rfl
    exact .pattern expression index

/-- A sequence is its first part where that fails, and otherwise goes on with the second. -/
theorem evaluates_sequence_iff :
    Evaluates rules input depth (.parse (.sequence first next) index) outcome ↔
      (∃ failure, Evaluates rules input depth (.parse first index) (.failure failure) ∧
        outcome = .failure failure) ∨
      ∃ front, Evaluates rules input depth (.parse first index) (.success front) ∧
        ∃ back, Evaluates rules input depth (.parse next front.stop) back ∧
          outcome = joinOutcome input index front back := by
  constructor
  · intro h
    cases h with
    | sequenceFails h₁ => exact .inl ⟨_, h₁, rfl⟩
    | sequence h₁ h₂ => exact .inr ⟨_, h₁, _, h₂, rfl⟩
  · rintro (⟨failure, h₁, rfl⟩ | ⟨front, h₁, back, h₂, rfl⟩)
    · exact .sequenceFails h₁
    · exact .sequence h₁ h₂

theorem evaluates_choice_iff :
    Evaluates rules input depth (.parse (.choice all) index) outcome ↔
      Evaluates rules input depth (.choose all none all index) outcome := by
  constructor
  · intro h
    cases h with
    | choice h₁ => exact h₁
  · exact .choice

theorem evaluates_choose_nil_iff :
    Evaluates rules input depth (.choose all termination [] index) outcome ↔
      outcome = .failure (noneMatched all index termination) := by
  constructor
  · intro h
    cases h
    rfl
  · rintro rfl
    exact .exhausted all termination index

/-- The first alternative decides where it succeeds, and otherwise the rest. -/
theorem evaluates_choose_cons_iff :
    Evaluates rules input depth (.choose all termination (parser :: rest) index) outcome ↔
      (∃ success, Evaluates rules input depth (.parse parser index) (.success success) ∧
        outcome = .success success) ∨
      ∃ failure, Evaluates rules input depth (.parse parser index) (.failure failure) ∧
        Evaluates rules input depth (.choose all (firstTermination termination failure) rest index)
          outcome := by
  constructor
  · intro h
    cases h with
    | chosen h₁ => exact .inl ⟨_, h₁, rfl⟩
    | passedOver h₁ h₂ => exact .inr ⟨_, h₁, h₂⟩
  · rintro (⟨success, h₁, rfl⟩ | ⟨failure, h₁, h₂⟩)
    · exact .chosen h₁
    · exact .passedOver h₁ h₂

theorem evaluates_repetition_iff :
    Evaluates rules input depth (.parse (.repetition body bounds) index) outcome ↔
      Evaluates rules input depth (.loop body none bounds index index []) outcome := by
  constructor
  · intro h
    cases h with
    | repetition h₁ => exact h₁
  · exact .repetition

theorem evaluates_separated_iff :
    Evaluates rules input depth (.parse (.separated body separator bounds) index) outcome ↔
      Evaluates rules input depth (.loop body (some separator) bounds index index []) outcome := by
  constructor
  · intro h
    cases h with
    | separated h₁ => exact h₁
  · exact .separated

theorem evaluates_option_iff :
    Evaluates rules input depth (.parse (.option body) index) outcome ↔
      ∃ inner, Evaluates rules input depth (.parse body index) inner ∧
        outcome = orNothing input index inner := by
  constructor
  · intro h
    cases h with
    | option h₁ => exact ⟨_, h₁, rfl⟩
  · rintro ⟨inner, h₁, rfl⟩
    exact .option h₁

theorem evaluates_negation_iff :
    Evaluates rules input depth (.parse (.negation body) index) outcome ↔
      ∃ inner, Evaluates rules input depth (.parse body index) inner ∧
        outcome = inverted input body index inner := by
  constructor
  · intro h
    cases h with
    | negation h₁ => exact ⟨_, h₁, rfl⟩
  · rintro ⟨inner, h₁, rfl⟩
    exact .negation h₁

theorem evaluates_anchored_iff :
    Evaluates rules input depth (.parse (.anchored body) index) outcome ↔
      ∃ inner, Evaluates rules input depth (.parse body index) inner ∧
        outcome = atEnd input inner := by
  constructor
  · intro h
    cases h with
    | anchored h₁ => exact ⟨_, h₁, rfl⟩
  · rintro ⟨inner, h₁, rfl⟩
    exact .anchored h₁

theorem evaluates_mapped_iff {convert : Value α → Value α} :
    Evaluates rules input depth (.parse (.mapped body convert) index) outcome ↔
      ∃ inner, Evaluates rules input depth (.parse body index) inner ∧
        outcome = mapOutcome convert inner := by
  constructor
  · intro h
    cases h with
    | mapped h₁ => exact ⟨_, h₁, rfl⟩
  · rintro ⟨inner, h₁, rfl⟩
    exact .mapped h₁

theorem evaluates_converted_iff {convert : Value α → Except String (Value α)} :
    Evaluates rules input depth (.parse (.converted body convert) index) outcome ↔
      ∃ inner, Evaluates rules input depth (.parse body index) inner ∧
        outcome = convertOutcome body convert index inner := by
  constructor
  · intro h
    cases h with
    | converted h₁ => exact ⟨_, h₁, rfl⟩
  · rintro ⟨inner, h₁, rfl⟩
    exact .converted h₁

/-- Without a limit, a name is what it stands for. -/
theorem evaluates_deferred_iff {name : ρ} :
    Evaluates rules input ⊤ (.parse (.deferred name) index) outcome ↔
      ∃ parser, rules name = some parser ∧
        Evaluates rules input ⊤ (.parse parser index) outcome := by
  constructor
  · intro h
    cases h with
    | deferred hrule _ h₁ => exact ⟨_, hrule, h₁.mono le_top⟩
  · rintro ⟨parser, hrule, h₁⟩
    exact .deferred hrule le_top h₁

/-- At a finite depth one rule less can be entered inside the rule. -/
theorem evaluates_deferred_succ_iff {n : ℕ} {name : ρ} :
    Evaluates rules input (n + 1 : ℕ) (.parse (.deferred name) index) outcome ↔
      ∃ parser, rules name = some parser ∧
        Evaluates rules input n (.parse parser index) outcome := by
  constructor
  · intro h
    cases h with
    | deferred hrule hdepth h₁ =>
      rw [Nat.cast_add, Nat.cast_one, ENat.add_le_add_iff_right ENat.one_ne_top] at hdepth
      exact ⟨_, hrule, h₁.mono hdepth⟩
  · rintro ⟨parser, hrule, h₁⟩
    exact .deferred hrule (by exact_mod_cast le_refl (n + 1)) h₁

/-- At depth zero no rule can be entered. -/
theorem not_evaluates_deferred_zero {name : ρ} :
    ¬ Evaluates rules input 0 (.parse (.deferred name) index) outcome := by
  intro h
  cases h with
  | deferred _ hdepth _ => simp at hdepth

/-- What becomes of a round: the loop ends where the body fails or comes no further than the
separator's start, and otherwise goes on. -/
theorem evaluates_round_iff {separator : Option (Parser ρ α)} :
    Evaluates rules input depth (.round body separator bounds start position behind values)
        outcome ↔
      (∃ failure, Evaluates rules input depth (.parse body behind) (.failure failure) ∧
        outcome = endLoop input body bounds start behind values) ∨
      ∃ success, Evaluates rules input depth (.parse body behind) (.success success) ∧
        (success.stop = position ∧
            outcome = endLoop input body bounds start position (success.value :: values) ∨
          success.stop ≠ position ∧
            Evaluates rules input depth
              (.loop body separator bounds start success.stop (success.value :: values))
              outcome) := by
  constructor
  · intro h
    cases h with
    | roundFails h₁ => exact .inl ⟨_, h₁, rfl⟩
    | roundStays h₁ hstop => exact .inr ⟨_, h₁, .inl ⟨hstop, rfl⟩⟩
    | roundMoves h₁ hstop h₂ => exact .inr ⟨_, h₁, .inr ⟨hstop, h₂⟩⟩
  · rintro (⟨failure, h₁, rfl⟩ | ⟨success, h₁, ⟨hstop, rfl⟩ | ⟨hstop, h₂⟩⟩)
    · exact .roundFails h₁
    · exact .roundStays h₁ hstop
    · exact .roundMoves h₁ hstop h₂

/-- A loop that admits no more values ends. -/
theorem evaluates_loop_full_iff {separator : Option (Parser ρ α)}
    (hadmits : bounds.admits values.length = false) :
    Evaluates rules input depth (.loop body separator bounds start position values) outcome ↔
      outcome = endLoop input body bounds start position values := by
  constructor
  · intro h
    cases h with
    | full _ => rfl
    | unseparated hadmits' _ _ => simp [hadmits] at hadmits'
    | separatorFails hadmits' _ _ => simp [hadmits] at hadmits'
    | separatorMatches hadmits' _ _ _ => simp [hadmits] at hadmits'
  · rintro rfl
    exact .full hadmits

/-- A loop in front of which no separator stands goes on with its body. -/
theorem evaluates_loop_unseparated_iff {separator : Option (Parser ρ α)}
    (hadmits : bounds.admits values.length = true) (hsep : separator = none ∨ values = []) :
    Evaluates rules input depth (.loop body separator bounds start position values) outcome ↔
      Evaluates rules input depth (.round body separator bounds start position position values)
        outcome := by
  constructor
  · intro h
    cases h with
    | full hadmits' => simp [hadmits] at hadmits'
    | unseparated _ _ h₁ => exact h₁
    | separatorFails _ hne _ => simp [hne] at hsep
    | separatorMatches _ hne _ _ => simp [hne] at hsep
  · exact .unseparated hadmits hsep

/-- A loop in front of which a separator stands ends where that fails. -/
theorem evaluates_loop_separated_iff (hadmits : bounds.admits values.length = true)
    (hne : values ≠ []) :
    Evaluates rules input depth (.loop body (some separator) bounds start position values)
        outcome ↔
      (∃ failure, Evaluates rules input depth (.parse separator position) (.failure failure) ∧
        outcome = endLoop input body bounds start position values) ∨
      ∃ success, Evaluates rules input depth (.parse separator position) (.success success) ∧
        Evaluates rules input depth
          (.round body (some separator) bounds start position success.stop values) outcome := by
  constructor
  · intro h
    cases h with
    | full hadmits' => simp [hadmits] at hadmits'
    | unseparated _ hsep _ => simp [hne] at hsep
    | separatorFails _ _ h₁ => exact .inl ⟨_, h₁, rfl⟩
    | separatorMatches _ _ h₁ h₂ => exact .inr ⟨_, h₁, h₂⟩
  · rintro (⟨failure, h₁, rfl⟩ | ⟨success, h₁, h₂⟩)
    · exact .separatorFails hadmits hne h₁
    · exact .separatorMatches hadmits hne h₁ h₂

end Inversion

end Backtrack
