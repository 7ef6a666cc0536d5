import Mathlib.Order.WellFoundedSet
import Backtrack.Proofs.Parser.Extent

/-! # Parsers that come to an end

    A parser *tries* a rule if it may enter the rule at the very index at
    which it was started itself. If no rule can reach itself through such
    steps, then every parser over these rules has an outcome, for every input
    and at every index.

    The argument goes down in three ways, one inside the other: less of the
    input is left, or a rule that comes later in the order of trying is
    entered at the same index, or a part of the same parser is run there. The
    separator of a repetition is left out of the order, as it is asked for
    behind the start only: a first round that consumes nothing is the last.

    * `Parser.answers_of_tries`: the step inside one parser.
    * `Parser.answers`: all parsers. -/

namespace Backtrack

variable {ρ α : Type}

/-! ## §1. What is tried at the same index -/

namespace Parser

/-- The parser can match the empty text somewhere. -/
def MatchesEmpty (rules : ρ → Option (Parser ρ α)) (parser : Parser ρ α) : Prop :=
  ∃ input index success,
    Evaluates rules input ⊤ (.parse parser index) (.success success) ∧ success.text = []

/-- The parser may enter a rule at the index at which it is started. -/
inductive Tries (rules : ρ → Option (Parser ρ α)) : Parser ρ α → ρ → Prop where
  | deferred (name : ρ) : Tries rules (deferred name) name
  | first {first next : Parser ρ α} {name : ρ} :
      Tries rules first name → Tries rules (sequence first next) name
  | next {first next : Parser ρ α} {name : ρ} :
      first.MatchesEmpty rules → Tries rules next name → Tries rules (sequence first next) name
  | alternative {alternatives : List (Parser ρ α)} {parser : Parser ρ α} {name : ρ} :
      parser ∈ alternatives → Tries rules parser name → Tries rules (choice alternatives) name
  | repetition {body : Parser ρ α} {bounds : Bounds} {name : ρ} :
      Tries rules body name → Tries rules (repetition body bounds) name
  | separated {body separator : Parser ρ α} {bounds : Bounds} {name : ρ} :
      Tries rules body name → Tries rules (separated body separator bounds) name
  | option {body : Parser ρ α} {name : ρ} :
      Tries rules body name → Tries rules (option body) name
  | negation {body : Parser ρ α} {name : ρ} :
      Tries rules body name → Tries rules (negation body) name
  | anchored {body : Parser ρ α} {name : ρ} :
      Tries rules body name → Tries rules (anchored body) name
  | mapped {body : Parser ρ α} {convert : Value α → Value α} {name : ρ} :
      Tries rules body name → Tries rules (mapped body convert) name
  | converted {body : Parser ρ α} {convert : Value α → Except String (Value α)} {name : ρ} :
      Tries rules body name → Tries rules (converted body convert) name

theorem Tries.mentions {rules : ρ → Option (Parser ρ α)} {parser : Parser ρ α} {name : ρ}
    (h : parser.Tries rules name) : parser.Mentions name := by
  induction h with
  | deferred name => exact .deferred name
  | first _ ih => exact .first ih
  | next _ _ ih => exact .next ih
  | alternative hmem _ ih => exact .alternative hmem ih
  | repetition _ ih => exact .repetition ih
  | separated _ ih => exact .body ih
  | option _ ih => exact .option ih
  | negation _ ih => exact .negation ih
  | anchored _ ih => exact .anchored ih
  | mapped _ ih => exact .mapped ih
  | converted _ ih => exact .converted ih

/-- A rule tries what its parser tries. -/
def RuleTries (rules : ρ → Option (Parser ρ α)) (name name' : ρ) : Prop :=
  ∃ parser, rules name = some parser ∧ parser.Tries rules name'

/-- Every name that the parser mentions stands for something. -/
def Complete (rules : ρ → Option (Parser ρ α)) (parser : Parser ρ α) : Prop :=
  ∀ name, parser.Mentions name → (rules name).isSome

/-- There is an outcome at the index. -/
def Answers (rules : ρ → Option (Parser ρ α)) (input : Text) (index : Nat)
    (parser : Parser ρ α) : Prop :=
  ∃ outcome, Evaluates rules input ⊤ (.parse parser index) outcome

end Parser

/-! ## §2. The step inside one parser -/

section Step

variable {rules : ρ → Option (Parser ρ α)} {input : Text} {index : Nat}

/-- A repetition ends whose body has outcomes from its start on, and whose separator has them behind
the start. -/
theorem loop_answers {body : Parser ρ α} {separator : Option (Parser ρ α)} {bounds : Bounds}
    {start : Nat} (hbody : body.Answers rules input index)
    (hlater : ∀ position, index < position → position ≤ input.size →
      body.Answers rules input position ∧
        ∀ between ∈ separator, between.Answers rules input position)
    {position : Nat} {values : List (Value α)}
    (hposition : values = [] ∧ position = index ∨ index < position ∧ position ≤ input.size) :
    ∃ outcome, Evaluates rules input ⊤ (.loop body separator bounds start position values)
      outcome := by
  induction hleft : input.size - position using Nat.strong_induction_on
    generalizing position values with
  | _ left ih =>
  subst hleft
  -- Behind the separator, a round either is the last or leaves less of the input.
  have round_answers (behind : Nat) (hfrom : position ≤ behind)
      (hround : body.Answers rules input behind) :
      ∃ outcome, Evaluates rules input ⊤
        (.round body separator bounds start position behind values) outcome := by
    obtain ⟨success | failure, hround⟩ := hround
    · by_cases hstop : success.stop = position
      · exact ⟨_, .roundStays hround hstop⟩
      · have hlo : behind ≤ success.stop := hround.start_le_stop
        have hhi := hround.stop_le_size
        have hindex : index ≤ position := by omega
        obtain ⟨outcome, hloop⟩ : ∃ outcome, Evaluates rules input ⊤
            (.loop body separator bounds start success.stop (success.value :: values)) outcome :=
          ih (input.size - success.stop) (by omega) (.inr ⟨by omega, hhi⟩) rfl
        exact ⟨outcome, .roundMoves hround hstop hloop⟩
    · exact ⟨_, .roundFails hround⟩
  have hhere : body.Answers rules input position := by
    rcases hposition with ⟨_, rfl⟩ | ⟨hlo, hhi⟩
    · exact hbody
    · exact (hlater position hlo hhi).1
  cases hadmits : bounds.admits values.length with
  | false => exact ⟨_, .full hadmits⟩
  | true =>
    by_cases hsep : separator = none ∨ values = []
    · -- The body may stand at the start itself here.
      obtain ⟨outcome, hround⟩ := round_answers position (le_refl position) hhere
      exact ⟨outcome, .unseparated hadmits hsep hround⟩
    · -- A separator stands behind a round that consumed something.
      obtain ⟨hsome, hne⟩ := not_or.1 hsep
      obtain ⟨between, rfl⟩ := Option.ne_none_iff_exists'.1 hsome
      obtain ⟨hlo, hhi⟩ := hposition.resolve_left fun h => hne h.1
      obtain ⟨success | failure, hbetween⟩ := (hlater position hlo hhi).2 between rfl
      · have hfrom : position ≤ success.stop := hbetween.start_le_stop
        obtain ⟨outcome, hround⟩ := round_answers success.stop hfrom
          (hlater success.stop (by omega) hbetween.stop_le_size).1
        exact ⟨outcome, .separatorMatches hadmits hne hbetween hround⟩
      · exact ⟨_, .separatorFails hadmits hne hbetween⟩

/-- The alternatives of a choice, one after the other. -/
theorem choose_answers {all rest : List (Parser ρ α)} {termination : Option Failure}
    (each : ∀ parser ∈ rest, parser.Answers rules input index) :
    ∃ outcome, Evaluates rules input ⊤ (.choose all termination rest index) outcome := by
  induction rest generalizing termination with
  | nil => exact ⟨_, .exhausted all termination index⟩
  | cons parser rest ih =>
    obtain ⟨success | failure, hparser⟩ := each parser List.mem_cons_self
    · exact ⟨_, .chosen hparser⟩
    · obtain ⟨outcome, hrest⟩ : ∃ outcome, Evaluates rules input ⊤
          (.choose all (firstTermination termination failure) rest index) outcome :=
        ih fun other hmem => each other (List.mem_cons_of_mem _ hmem)
      exact ⟨outcome, .passedOver hparser hrest⟩

/-- A parser has an outcome at an index if the rules it tries have one there, and all parsers have
outcomes behind the index. -/
theorem Parser.answers_of_tries {parser : Parser ρ α} (hcomplete : parser.Complete rules)
    (hlater : ∀ parser : Parser ρ α, parser.Complete rules → ∀ position, index < position →
      position ≤ input.size → parser.Answers rules input position)
    (htries : ∀ name, parser.Tries rules name →
      (Parser.deferred name : Parser ρ α).Answers rules input index) :
    parser.Answers rules input index := by
  induction parser using Parser.induction with
  | literal text => exact ⟨_, .literal text index⟩
  | pattern expression => exact ⟨_, .pattern expression index⟩
  | sequence first next hfirst hnext =>
    have hcomplete₁ : first.Complete rules := fun name h => hcomplete name (.first h)
    have hcomplete₂ : next.Complete rules := fun name h => hcomplete name (.next h)
    obtain ⟨front | failure, h₁⟩ := hfirst hcomplete₁ fun name h => htries name (.first h)
    · -- The second part starts at the same index only where the first one matched nothing.
      have hlo : index ≤ front.stop := h₁.start_le_stop
      have hanswers : next.Answers rules input front.stop := by
        rcases Nat.eq_or_lt_of_le hlo with hstop | hlt
        · have hempty : first.MatchesEmpty rules :=
            ⟨input, index, front, h₁, h₁.text_eq_nil hstop.symm⟩
          rw [← hstop]
          exact hnext hcomplete₂ fun name h => htries name (.next hempty h)
        · exact hlater next hcomplete₂ front.stop hlt h₁.stop_le_size
      obtain ⟨outcome, h₂⟩ := hanswers
      exact ⟨_, .sequence h₁ h₂⟩
    · exact ⟨_, .sequenceFails h₁⟩
  | choice alternatives ih =>
    obtain ⟨outcome, h⟩ : ∃ outcome, Evaluates rules input ⊤
        (.choose alternatives none alternatives index) outcome :=
      choose_answers fun parser hmem =>
        ih parser hmem (fun name h => hcomplete name (.alternative hmem h))
          fun name h => htries name (.alternative hmem h)
    exact ⟨outcome, .choice h⟩
  | repetition body bounds ih =>
    have hcomplete' : body.Complete rules := fun name h => hcomplete name (.repetition h)
    have hbody := ih hcomplete' fun name h => htries name (.repetition h)
    obtain ⟨outcome, h⟩ : ∃ outcome, Evaluates rules input ⊤
        (.loop body none bounds index index []) outcome :=
      loop_answers hbody
        (fun position hlo hhi => ⟨hlater body hcomplete' position hlo hhi, by simp⟩)
        (.inl ⟨rfl, rfl⟩)
    exact ⟨outcome, .repetition h⟩
  | separated body separator bounds hbody _ =>
    have hcomplete₁ : body.Complete rules := fun name h => hcomplete name (.body h)
    have hcomplete₂ : separator.Complete rules := fun name h => hcomplete name (.separator h)
    have hbody := hbody hcomplete₁ fun name h => htries name (.separated h)
    have hbehind (position : Nat) (hlo : index < position) (hhi : position ≤ input.size) :
        body.Answers rules input position ∧
          ∀ between ∈ some separator, between.Answers rules input position := by
      refine ⟨hlater body hcomplete₁ position hlo hhi, fun between hmem => ?_⟩
      cases hmem
      exact hlater separator hcomplete₂ position hlo hhi
    obtain ⟨outcome, h⟩ : ∃ outcome, Evaluates rules input ⊤
        (.loop body (some separator) bounds index index []) outcome :=
      loop_answers hbody hbehind (.inl ⟨rfl, rfl⟩)
    exact ⟨outcome, .separated h⟩
  | option body ih =>
    obtain ⟨outcome, h⟩ := ih (fun name h => hcomplete name (.option h))
      fun name h => htries name (.option h)
    exact ⟨_, .option h⟩
  | negation body ih =>
    obtain ⟨outcome, h⟩ := ih (fun name h => hcomplete name (.negation h))
      fun name h => htries name (.negation h)
    exact ⟨_, .negation h⟩
  | anchored body ih =>
    obtain ⟨outcome, h⟩ := ih (fun name h => hcomplete name (.anchored h))
      fun name h => htries name (.anchored h)
    exact ⟨_, .anchored h⟩
  | mapped body convert ih =>
    obtain ⟨outcome, h⟩ := ih (fun name h => hcomplete name (.mapped h))
      fun name h => htries name (.mapped h)
    exact ⟨_, .mapped h⟩
  | converted body convert ih =>
    obtain ⟨outcome, h⟩ := ih (fun name h => hcomplete name (.converted h))
      fun name h => htries name (.converted h)
    exact ⟨_, .converted h⟩
  | deferred name => exact htries name (.deferred name)

end Step

/-! ## §3. All parsers -/

section Descent

variable {rules : ρ → Option (Parser ρ α)}

/-- On finitely many rules an order of trying without cycles is well-founded. -/
theorem Parser.wellFoundedOn_ruleTries (hfinite : {name | (rules name).isSome}.Finite)
    (hacyclic : ∀ name, ¬ Relation.TransGen (Parser.RuleTries rules) name name) :
    {name | (rules name).isSome}.WellFoundedOn
      fun later earlier => Relation.TransGen (Parser.RuleTries rules) earlier later := by
  have : IsStrictOrder ρ
      fun later earlier => Relation.TransGen (Parser.RuleTries rules) earlier later :=
    { irrefl := hacyclic, trans := fun _ _ _ h₁ h₂ => h₂.trans h₁ }
  exact hfinite.wellFoundedOn

/-- If no rule can reach itself at the index it was entered at, then every parser has an outcome,
for every input and at every index. -/
theorem Parser.answers (hfinite : {name | (rules name).isSome}.Finite)
    (hrules : ∀ name parser, rules name = some parser → parser.Complete rules)
    (hacyclic : ∀ name, ¬ Relation.TransGen (Parser.RuleTries rules) name name)
    {parser : Parser ρ α} (hcomplete : parser.Complete rules) (input : Text) (index : Nat) :
    parser.Answers rules input index := by
  induction hleft : input.size - index using Nat.strong_induction_on
    generalizing index parser with
  | _ left ih =>
  have hlater (parser : Parser ρ α) (hcomplete : parser.Complete rules) (position : Nat)
      (hlo : index < position) (hhi : position ≤ input.size) :
      parser.Answers rules input position :=
    ih (input.size - position) (by omega) hcomplete position rfl
  have hnames (name : ρ) (hsome : (rules name).isSome) :
      (Parser.deferred name : Parser ρ α).Answers rules input index := by
    -- A rule has an outcome at the index if those that it tries there have one.
    refine (wellFoundedOn_ruleTries hfinite hacyclic).induction (x := name) hsome
      (P := fun name => (Parser.deferred name : Parser ρ α).Answers rules input index)
      fun name hsome ih => ?_
    obtain ⟨inner, hrule⟩ := Option.isSome_iff_exists.1 hsome
    have hinner : inner.Answers rules input index := by
      apply Parser.answers_of_tries (hrules name inner hrule) hlater
      intro other htries
      exact ih other (hrules name inner hrule other htries.mentions)
        (.single ⟨inner, hrule, htries⟩)
    obtain ⟨outcome, h⟩ := hinner
    exact ⟨outcome, .deferred hrule le_top h⟩
  exact Parser.answers_of_tries hcomplete hlater
    fun name htries => hnames name (hcomplete name htries.mentions)

end Descent

end Backtrack
