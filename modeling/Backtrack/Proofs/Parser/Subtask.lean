import Mathlib.Logic.Relation
import Backtrack.Proofs.Parser.Extent

/-! # What a derivation goes through

    A task *asks* for others: the parts of a parser at the indices at which
    they are run, the rounds of a repetition one after the other, the parser
    behind a name. Which ones it asks for depends on the outcomes of those it
    has asked for before. All tasks that are asked for on the way, also on
    branches that fail and are left again, are what a run goes through.

    * `Evaluates.exists_of_asks`: what a task with an outcome asks for has an
      outcome, so nothing is on the way that a run does not go through.
    * `Evaluates.exists_of_forall_asks`: a task needs nothing else, so a run
      goes through nothing that is not on the way.
    * `Task.Progresses`: every body of a repetition that matches on the way
      matches something. -/

namespace Backtrack

variable {ρ α : Type}

/-- The first task's outcome is derived from the second's, among others. -/
inductive Task.Asks (rules : ρ → Option (Parser ρ α)) (input : Text) :
    Task ρ α → Task ρ α → Prop where
  | first {first next : Parser ρ α} {index : Nat} :
      Asks rules input (.parse (.sequence first next) index) (.parse first index)
  | next {first next : Parser ρ α} {index : Nat} {front : Success (Value α)} :
      Evaluates rules input ⊤ (.parse first index) (.success front) →
      Asks rules input (.parse (.sequence first next) index) (.parse next front.stop)
  | choice {alternatives : List (Parser ρ α)} {index : Nat} :
      Asks rules input (.parse (.choice alternatives) index)
        (.choose alternatives none alternatives index)
  | alternative {all rest : List (Parser ρ α)} {termination : Option Failure}
      {parser : Parser ρ α} {index : Nat} :
      Asks rules input (.choose all termination (parser :: rest) index) (.parse parser index)
  | others {all rest : List (Parser ρ α)} {termination : Option Failure}
      {parser : Parser ρ α} {index : Nat} {failure : Failure} :
      Evaluates rules input ⊤ (.parse parser index) (.failure failure) →
      Asks rules input (.choose all termination (parser :: rest) index)
        (.choose all (firstTermination termination failure) rest index)
  | repetition {body : Parser ρ α} {bounds : Bounds} {index : Nat} :
      Asks rules input (.parse (.repetition body bounds) index)
        (.loop body none bounds index index [])
  | separated {body separator : Parser ρ α} {bounds : Bounds} {index : Nat} :
      Asks rules input (.parse (.separated body separator bounds) index)
        (.loop body (some separator) bounds index index [])
  | unseparated {body : Parser ρ α} {separator : Option (Parser ρ α)} {bounds : Bounds}
      {start position : Nat} {values : List (Value α)} :
      bounds.admits values.length = true → separator = none ∨ values = [] →
      Asks rules input (.loop body separator bounds start position values)
        (.round body separator bounds start position position values)
  | separator {body separator : Parser ρ α} {bounds : Bounds} {start position : Nat}
      {values : List (Value α)} :
      bounds.admits values.length = true → values ≠ [] →
      Asks rules input (.loop body (some separator) bounds start position values)
        (.parse separator position)
  | behind {body separator : Parser ρ α} {bounds : Bounds} {start position : Nat}
      {values : List (Value α)} {success : Success (Value α)} :
      bounds.admits values.length = true → values ≠ [] →
      Evaluates rules input ⊤ (.parse separator position) (.success success) →
      Asks rules input (.loop body (some separator) bounds start position values)
        (.round body (some separator) bounds start position success.stop values)
  | body {body : Parser ρ α} {separator : Option (Parser ρ α)} {bounds : Bounds}
      {start position behind : Nat} {values : List (Value α)} :
      Asks rules input (.round body separator bounds start position behind values)
        (.parse body behind)
  | again {body : Parser ρ α} {separator : Option (Parser ρ α)} {bounds : Bounds}
      {start position behind : Nat} {values : List (Value α)} {success : Success (Value α)} :
      Evaluates rules input ⊤ (.parse body behind) (.success success) →
      success.stop ≠ position →
      Asks rules input (.round body separator bounds start position behind values)
        (.loop body separator bounds start success.stop (success.value :: values))
  | option {body : Parser ρ α} {index : Nat} :
      Asks rules input (.parse (.option body) index) (.parse body index)
  | negation {body : Parser ρ α} {index : Nat} :
      Asks rules input (.parse (.negation body) index) (.parse body index)
  | anchored {body : Parser ρ α} {index : Nat} :
      Asks rules input (.parse (.anchored body) index) (.parse body index)
  | mapped {body : Parser ρ α} {convert : Value α → Value α} {index : Nat} :
      Asks rules input (.parse (.mapped body convert) index) (.parse body index)
  | converted {body : Parser ρ α} {convert : Value α → Except String (Value α)} {index : Nat} :
      Asks rules input (.parse (.converted body convert) index) (.parse body index)
  | deferred {name : ρ} {parser : Parser ρ α} {index : Nat} :
      rules name = some parser →
      Asks rules input (.parse (.deferred name) index) (.parse parser index)

/-- On the way of the task, every body of a repetition that matches matches something. -/
def Task.Progresses (rules : ρ → Option (Parser ρ α)) (input : Text) (task : Task ρ α) : Prop :=
  ∀ body separator bounds start position behind values success,
    Relation.ReflTransGen (Task.Asks rules input) task
      (.round body separator bounds start position behind values) →
    Evaluates rules input ⊤ (.parse body behind) (.success success) → success.text ≠ []

section Way

variable {rules : ρ → Option (Parser ρ α)} {input : Text} {task task' : Task ρ α}

/-- What a task asks for lies on its way. -/
theorem Task.Progresses.of_asks (h : task.Progresses rules input)
    (hasks : Task.Asks rules input task task') : task'.Progresses rules input :=
  fun body separator bounds start position behind values success hway =>
    h body separator bounds start position behind values success (.head hasks hway)

/-- A round whose body matches nothing is not on the way. -/
theorem Task.Progresses.text_ne_nil {body : Parser ρ α} {separator : Option (Parser ρ α)}
    {bounds : Bounds} {start position behind : Nat} {values : List (Value α)}
    {success : Success (Value α)}
    (h : (Task.round body separator bounds start position behind values).Progresses rules input)
    (hbody : Evaluates rules input ⊤ (.parse body behind) (.success success)) :
    success.text ≠ [] :=
  h body separator bounds start position behind values success .refl hbody

/-- A task progresses if what it asks for does, unless it is a round that matches nothing. -/
theorem Task.progresses_of_forall
    (hround : ∀ body separator bounds start position behind values success,
      task = .round body separator bounds start position behind values →
      Evaluates rules input ⊤ (.parse body behind) (.success success) → success.text ≠ [])
    (h : ∀ task', Task.Asks rules input task task' → task'.Progresses rules input) :
    task.Progresses rules input := by
  intro body separator bounds start position behind values success hway hbody
  rcases hway.cases_head with rfl | ⟨task', hasks, hrest⟩
  · exact hround _ _ _ _ _ _ _ _ rfl hbody
  · exact h task' hasks _ _ _ _ _ _ _ _ hrest hbody

/-- What a task with an outcome asks for has an outcome, too. -/
theorem Evaluates.exists_of_asks {outcome : Outcome (Value α)}
    (h : Evaluates rules input ⊤ task outcome) (hasks : Task.Asks rules input task task') :
    ∃ outcome', Evaluates rules input ⊤ task' outcome' := by
  -- What was asked for before is settled, so the derivation went on as the request says.
  cases hasks with
  | first =>
    rcases evaluates_sequence_iff.1 h with ⟨_, hfirst, _⟩ | ⟨_, hfirst, _⟩
    · exact ⟨_, hfirst⟩
    · exact ⟨_, hfirst⟩
  | next hfront =>
    rcases evaluates_sequence_iff.1 h with ⟨_, hfirst, _⟩ | ⟨_, hfirst, back, hnext, _⟩
    · cases hfront.deterministic hfirst
    · cases hfront.deterministic hfirst
      exact ⟨back, hnext⟩
  | choice => exact ⟨_, evaluates_choice_iff.1 h⟩
  | alternative =>
    rcases evaluates_choose_cons_iff.1 h with ⟨_, hparser, _⟩ | ⟨_, hparser, _⟩
    · exact ⟨_, hparser⟩
    · exact ⟨_, hparser⟩
  | others hfailure =>
    rcases evaluates_choose_cons_iff.1 h with ⟨_, hparser, _⟩ | ⟨_, hparser, hrest⟩
    · cases hfailure.deterministic hparser
    · cases hfailure.deterministic hparser
      exact ⟨_, hrest⟩
  | repetition => exact ⟨_, evaluates_repetition_iff.1 h⟩
  | separated => exact ⟨_, evaluates_separated_iff.1 h⟩
  | unseparated hadmits hsep => exact ⟨_, (evaluates_loop_unseparated_iff hadmits hsep).1 h⟩
  | separator hadmits hne =>
    rcases (evaluates_loop_separated_iff hadmits hne).1 h with ⟨_, hsep, _⟩ | ⟨_, hsep, _⟩
    · exact ⟨_, hsep⟩
    · exact ⟨_, hsep⟩
  | behind hadmits hne hsuccess =>
    rcases (evaluates_loop_separated_iff hadmits hne).1 h with ⟨_, hsep, _⟩ | ⟨_, hsep, hround⟩
    · cases hsuccess.deterministic hsep
    · cases hsuccess.deterministic hsep
      exact ⟨_, hround⟩
  | body =>
    rcases evaluates_round_iff.1 h with ⟨_, hbody, _⟩ | ⟨_, hbody, _⟩
    · exact ⟨_, hbody⟩
    · exact ⟨_, hbody⟩
  | again hsuccess hmoves =>
    rcases evaluates_round_iff.1 h with
      ⟨_, hbody, _⟩ | ⟨_, hbody, ⟨hstop, _⟩ | ⟨_, hloop⟩⟩
    · cases hsuccess.deterministic hbody
    · cases hsuccess.deterministic hbody
      exact absurd hstop hmoves
    · cases hsuccess.deterministic hbody
      exact ⟨_, hloop⟩
  | option =>
    obtain ⟨inner, hbody, _⟩ := evaluates_option_iff.1 h
    exact ⟨inner, hbody⟩
  | negation =>
    obtain ⟨inner, hbody, _⟩ := evaluates_negation_iff.1 h
    exact ⟨inner, hbody⟩
  | anchored =>
    obtain ⟨inner, hbody, _⟩ := evaluates_anchored_iff.1 h
    exact ⟨inner, hbody⟩
  | mapped =>
    obtain ⟨inner, hbody, _⟩ := evaluates_mapped_iff.1 h
    exact ⟨inner, hbody⟩
  | converted =>
    obtain ⟨inner, hbody, _⟩ := evaluates_converted_iff.1 h
    exact ⟨inner, hbody⟩
  | deferred hrule =>
    obtain ⟨_, hrule', hparser⟩ := evaluates_deferred_iff.1 h
    cases hrule.symm.trans hrule'
    exact ⟨_, hparser⟩

/-- A task asks for all that it needs: it has an outcome if everything has one that it asks for and,
where it is a name, the name stands for a parser. -/
theorem Evaluates.exists_of_forall_asks
    (hrule : ∀ name index, task = .parse (.deferred name) index → (rules name).isSome = true)
    (h : ∀ task', Task.Asks rules input task task' →
      ∃ outcome, Evaluates rules input ⊤ task' outcome) :
    ∃ outcome, Evaluates rules input ⊤ task outcome := by
  -- The outcomes of what was asked for so far decide which rule derives the task's own.
  cases task with
  | parse parser index =>
    cases parser with
    | literal text => exact ⟨_, .literal text index⟩
    | pattern expression => exact ⟨_, .pattern expression index⟩
    | sequence first next =>
      obtain ⟨outcome, hfirst⟩ := h _ .first
      cases outcome with
      | failure failure => exact ⟨_, .sequenceFails hfirst⟩
      | success front =>
        obtain ⟨_, hnext⟩ := h _ (.next hfirst)
        exact ⟨_, .sequence hfirst hnext⟩
    | choice alternatives =>
      obtain ⟨_, hchoose⟩ := h _ .choice
      exact ⟨_, .choice hchoose⟩
    | repetition body bounds =>
      obtain ⟨_, hloop⟩ := h _ .repetition
      exact ⟨_, .repetition hloop⟩
    | separated body separator bounds =>
      obtain ⟨_, hloop⟩ := h _ .separated
      exact ⟨_, .separated hloop⟩
    | option body =>
      obtain ⟨_, hbody⟩ := h _ .option
      exact ⟨_, .option hbody⟩
    | negation body =>
      obtain ⟨_, hbody⟩ := h _ .negation
      exact ⟨_, .negation hbody⟩
    | anchored body =>
      obtain ⟨_, hbody⟩ := h _ .anchored
      exact ⟨_, .anchored hbody⟩
    | mapped body convert =>
      obtain ⟨_, hbody⟩ := h _ .mapped
      exact ⟨_, .mapped hbody⟩
    | converted body convert =>
      obtain ⟨_, hbody⟩ := h _ .converted
      exact ⟨_, .converted hbody⟩
    | deferred name =>
      obtain ⟨parser, hparser⟩ := Option.isSome_iff_exists.1 (hrule name index rfl)
      obtain ⟨_, hbody⟩ := h _ (.deferred hparser)
      exact ⟨_, .deferred hparser le_top hbody⟩
  | choose all termination rest index =>
    cases rest with
    | nil => exact ⟨_, .exhausted all termination index⟩
    | cons parser rest =>
      obtain ⟨outcome, hparser⟩ := h _ .alternative
      cases outcome with
      | success success => exact ⟨_, .chosen hparser⟩
      | failure failure =>
        obtain ⟨_, hothers⟩ := h _ (.others hparser)
        exact ⟨_, .passedOver hparser hothers⟩
  | loop body separator bounds start position values =>
    cases hadmits : bounds.admits values.length with
    | false => exact ⟨_, .full hadmits⟩
    | true =>
      by_cases hsep : separator = none ∨ values = []
      · obtain ⟨_, hround⟩ := h _ (.unseparated hadmits hsep)
        exact ⟨_, .unseparated hadmits hsep hround⟩
      · obtain ⟨hsome, hne⟩ := not_or.1 hsep
        obtain ⟨between, rfl⟩ := Option.ne_none_iff_exists'.1 hsome
        obtain ⟨outcome, hbetween⟩ := h _ (.separator hadmits hne)
        cases outcome with
        | failure failure => exact ⟨_, .separatorFails hadmits hne hbetween⟩
        | success success =>
          obtain ⟨_, hround⟩ := h _ (.behind hadmits hne hbetween)
          exact ⟨_, .separatorMatches hadmits hne hbetween hround⟩
  | round body separator bounds start position behind values =>
    obtain ⟨outcome, hbody⟩ := h _ .body
    cases outcome with
    | failure failure => exact ⟨_, .roundFails hbody⟩
    | success success =>
      by_cases hstop : success.stop = position
      · exact ⟨_, .roundStays hbody hstop⟩
      · obtain ⟨_, hloop⟩ := h _ (.again hbody hstop)
        exact ⟨_, .roundMoves hbody hstop hloop⟩

end Way

end Backtrack
