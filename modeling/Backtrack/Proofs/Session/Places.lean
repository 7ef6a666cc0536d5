import Backtrack.Proofs.Parser.Faults
import Backtrack.Proofs.Session.Outcomes
import Backtrack.Proofs.Session.Recognition
import Backtrack.Proofs.Session.Roots

/-! # Runs and the places of the input

    What a run has to do with the places of its input: where it may start,
    where it goes from there, and where its failures point. The parser that a
    grammar runs is compared with the same parser inside an option, a negation
    or an anchor, each run in a session of its own and from whatever store
    that session's earlier runs have left behind.

    * `Grammar.Reaches.run_option_iff`, `run_negation_iff`, `run_anchored_iff`:
      what one more combinator makes of a run.
    * `Grammar.Reaches.index_decides`: indices that are no place of the input.
    * `Grammar.Reaches.calls_inside`: indices that are one.
    * `Grammar.Reaches.failure_points`: failures. -/

namespace Backtrack

variable {κ α : Type}

/-! ## §1. One more combinator -/

section Around

variable [DecidableEq κ] {grammar : Grammar κ α} {session session' : Session κ α}
  {store store' : Store κ α} {input : Text} {index : Nat} {outcome : Outcome (Value α)}

/-- A run of an option is a run of its body. -/
theorem Grammar.Reaches.run_option_iff (h : grammar.Reaches session store)
    (h' : (grammar.around .option).Reaches session' store') :
    (session'.run store' input index).1 = .ok outcome ↔
      ∃ inner, (session.run store input index).1 = .ok inner ∧
        outcome = orNothing input index inner := by
  obtain ⟨hparser, hrules⟩ := h.parser_around h' h.builds.option
  rw [h'.run_eq_ok_iff, hparser, hrules, evaluates_option_iff]
  simp only [h.run_eq_ok_iff]

/-- A run of a negation is a run of its body. -/
theorem Grammar.Reaches.run_negation_iff (h : grammar.Reaches session store)
    (h' : (grammar.around .negation).Reaches session' store') :
    (session'.run store' input index).1 = .ok outcome ↔
      ∃ inner, (session.run store input index).1 = .ok inner ∧
        outcome = inverted input session.parser index inner := by
  obtain ⟨hparser, hrules⟩ := h.parser_around h' h.builds.negation
  rw [h'.run_eq_ok_iff, hparser, hrules, evaluates_negation_iff]
  simp only [h.run_eq_ok_iff]

/-- A run of an anchor is a run of its body. -/
theorem Grammar.Reaches.run_anchored_iff (h : grammar.Reaches session store)
    (h' : (grammar.around .anchored).Reaches session' store') :
    (session'.run store' input index).1 = .ok outcome ↔
      ∃ inner, (session.run store input index).1 = .ok inner ∧ outcome = atEnd input inner := by
  obtain ⟨hparser, hrules⟩ := h.parser_around h' h.builds.anchored
  rw [h'.run_eq_ok_iff, hparser, hrules, evaluates_anchored_iff]
  simp only [h.run_eq_ok_iff]

end Around

section Outcomes

variable {ρ : Type} {input : Text} {index : Nat} {outcome : Outcome (Value α)}
  {success : Success (Value α)}

/-- An option succeeds at every place of the input. -/
theorem isSuccess_orNothing (h : input.isBoundary index = true) (outcome : Outcome (Value α)) :
    (orNothing input index outcome).isSuccess = true := by
  cases outcome with
  | success success => rfl
  | failure failure =>
    unfold orNothing
    rw [h]
    rfl

/-- A negation succeeds at a place of the input where its body does not. -/
theorem isSuccess_inverted (h : input.isBoundary index = true) (body : Parser ρ α)
    (outcome : Outcome (Value α)) :
    (inverted input body index outcome).isSuccess = !outcome.isSuccess := by
  cases outcome with
  | success success => rfl
  | failure failure =>
    unfold inverted
    rw [h]
    rfl

/-- A match that stops at the end of the input stays. -/
theorem atEnd_of_stop_eq (h : success.stop = input.size) :
    atEnd input (.success success) = .success success := by
  have hnothing : input.dropBytes? success.stop = some [] :=
    Text.dropBytes?_eq_some_iff.2 ⟨input, by simp, h.symm⟩
  simp only [atEnd, hnothing]

/-- At any place of the input but the end there is a character. -/
theorem Text.exists_dropBytes?_of_ne (hboundary : input.isBoundary index = true)
    (hne : index ≠ input.size) : ∃ found rest, input.dropBytes? index = some (found :: rest) := by
  obtain ⟨front, rest, hinput, hsize⟩ := Text.isBoundary_iff.1 hboundary
  cases rest with
  | nil =>
    rw [List.append_nil] at hinput
    rw [← hinput] at hsize
    exact absurd hsize.symm hne
  | cons found rest => exact ⟨found, rest, Text.dropBytes?_eq_some_iff.2 ⟨front, hinput, hsize⟩⟩

/-- A match that stops in front of a character becomes a failure there. -/
theorem atEnd_of_dropBytes? {found : Char} {rest : Text}
    (h : input.dropBytes? success.stop = some (found :: rest)) :
    atEnd input (.success success) = .failure (.trailing found success.stop) := by
  simp only [atEnd, h]

/-- A match that stops at another place of the input becomes a failure there. -/
theorem exists_atEnd_of_stop_ne (hboundary : input.isBoundary success.stop = true)
    (hstop : success.stop ≠ input.size) :
    ∃ found, atEnd input (.success success) = .failure (.trailing found success.stop) := by
  obtain ⟨found, rest, hfound⟩ := Text.exists_dropBytes?_of_ne hboundary hstop
  exact ⟨found, atEnd_of_dropBytes? hfound⟩

/-- A second anchor adds nothing to the first. -/
theorem atEnd_atEnd (outcome : Outcome (Value α)) :
    atEnd input (atEnd input outcome) = atEnd input outcome := by
  cases outcome with
  | failure failure => rfl
  | success success =>
    cases hrest : input.dropBytes? success.stop with
    | none => simp only [atEnd, hrest]
    | some rest =>
      cases rest with
      | nil => simp only [atEnd, hrest]
      | cons found rest => simp only [atEnd, hrest]

end Outcomes

/-! ## §2. Where a run may start -/

section Runs

variable [DecidableEq κ] {grammar : Grammar κ α} {session session' : Session κ α}
  {store store' : Store κ α} {input : Text} {index : Nat} {outcome inverse : Outcome (Value α)}

/-- Where the index is no place of the input, a run fails to match at this index. -/
theorem Grammar.Reaches.misses (h : grammar.Reaches session store)
    (houtside : input.isBoundary index = false)
    (hrun : (session.run store input index).1 = .ok outcome) : outcome.Misses index :=
  (h.run_eq_ok_iff.1 hrun).misses_of_outside ⟨houtside, rfl⟩ rfl

/-- An option succeeds at the places of the input and nowhere else. -/
theorem Grammar.Reaches.isSuccess_option_iff (h : grammar.Reaches session store)
    (h' : (grammar.around .option).Reaches session' store')
    (hrun : (session'.run store' input index).1 = .ok outcome) :
    outcome.isSuccess = true ↔ input.isBoundary index = true := by
  obtain ⟨inner, hinner, rfl⟩ := (h.run_option_iff h').1 hrun
  cases hboundary : input.isBoundary index with
  | true => simp [isSuccess_orNothing hboundary inner]
  | false =>
    -- What misses inside an option misses with it.
    obtain ⟨failure, rfl, _⟩ := (h.misses hboundary hinner).exists_failure
    obtain ⟨other, hother, _⟩ := (orNothing_misses hboundary failure : Outcome.Misses index
      (orNothing input index (.failure failure) : Outcome (Value α))).exists_failure
    rw [hother]
    simp [Outcome.isSuccess]

/-- A negation succeeds at the places of the input where its body does not. -/
theorem Grammar.Reaches.isSuccess_negation (h : grammar.Reaches session store)
    (h' : (grammar.around .negation).Reaches session' store')
    (hrun : (session.run store input index).1 = .ok outcome)
    (hinverse : (session'.run store' input index).1 = .ok inverse) :
    inverse.isSuccess = (input.isBoundary index && !outcome.isSuccess) := by
  obtain ⟨inner, hinner, rfl⟩ := (h.run_negation_iff h').1 hinverse
  rw [hrun] at hinner
  cases hinner
  cases hboundary : input.isBoundary index with
  | true => exact isSuccess_inverted hboundary session.parser outcome
  | false =>
    obtain ⟨failure, rfl, _⟩ := (h.misses hboundary hrun).exists_failure
    obtain ⟨other, hother, _⟩ :=
      (inverted_misses hboundary session.parser failure).exists_failure
    rw [hother]
    rfl

/-- **The index decides.** Where the index is no place of the input, past its end or inside of a
character, a run fails to match at this index, and no function of a conversion is applied. Where it
is one, and only there, an option succeeds. Of a parser and its negation exactly one succeeds at a
place of the input, and none does anywhere else. All three have an outcome where the parser has
one. -/
theorem Grammar.Reaches.index_decides {optional negated : Session κ α}
    {optionalStore negatedStore : Store κ α} (h : grammar.Reaches session store)
    (hoptional : (grammar.around .option).Reaches optional optionalStore)
    (hnegated : (grammar.around .negation).Reaches negated negatedStore)
    (input : Text) (index : Nat) :
    (input.isBoundary index = false →
      (∀ outcome, (session.run store input index).1 = .ok outcome →
        ∃ failure, outcome = .failure failure ∧ failure.kind = .parsing ∧ failure.index = index) ∧
      ¬ session.parser.Converts session.rule? input index) ∧
    (∀ outcome, (optional.run optionalStore input index).1 = .ok outcome →
      (outcome.isSuccess = true ↔ input.isBoundary index = true)) ∧
    (∀ outcome inverse, (session.run store input index).1 = .ok outcome →
      (negated.run negatedStore input index).1 = .ok inverse →
      (input.isBoundary index = true → inverse.isSuccess = !outcome.isSuccess) ∧
      (input.isBoundary index = false → outcome.isSuccess = false ∧ inverse.isSuccess = false)) ∧
    ∀ outcome, (session.run store input index).1 = .ok outcome →
      (∃ other, (optional.run optionalStore input index).1 = .ok other) ∧
      ∃ inverse, (negated.run negatedStore input index).1 = .ok inverse := by
  refine ⟨fun houtside => ⟨fun outcome hrun => ?_, ?_⟩, fun outcome hrun => ?_,
    fun outcome inverse hrun hinverse => ?_, fun outcome hrun => ⟨?_, ?_⟩⟩
  · exact (h.misses houtside hrun).exists_failure
  · exact Parser.not_converts_of_not_isBoundary houtside
  · exact h.isSuccess_option_iff hoptional hrun
  · have hboth := h.isSuccess_negation hnegated hrun hinverse
    refine ⟨fun hboundary => ?_, fun houtside => ?_⟩
    · rw [hboth, hboundary, Bool.true_and]
    · obtain ⟨failure, rfl, _⟩ := (h.misses houtside hrun).exists_failure
      rw [houtside, Bool.false_and] at hboth
      exact ⟨rfl, hboth⟩
  · exact ⟨_, (h.run_option_iff hoptional).2 ⟨outcome, hrun, rfl⟩⟩
  · exact ⟨_, (h.run_negation_iff hnegated).2 ⟨outcome, hrun, rfl⟩⟩

/-- Letters with an accent, any number of them, and each of them converted. -/
def accents : Grammar Unit Unit where
  rules := [((), .literal ['é'])]
  root := .repetition (.mapped (.deferred (.rule ())) fun _ => .unit) .many

/-- The session that the accents start with. -/
def accentsSession : Session Unit Unit where
  rules := accents.rules
  shared := []
  root := .repetition (.mapped (.deferred ⟨0, ()⟩) fun _ => .unit) .many

/-- Inside of the first letter the accents fail, an option of them does, and so does their
negation. Nothing is converted. -/
theorem index_decides_accents :
    accents.Reaches accentsSession ⟨1, [], []⟩ ∧ Text.isBoundary ['é', 'é'] 1 = false ∧
      (accentsSession.run ⟨1, [], []⟩ ['é', 'é'] 1).1 = .ok (.failure (.invalidIndex 1)) ∧
      ¬ accentsSession.parser.Converts accentsSession.rule? ['é', 'é'] 1 ∧
      ∃ other inverse,
        ((Session.mk accents.rules [] (.option accentsSession.root)).run ⟨1, [], []⟩
          ['é', 'é'] 1).1 = .ok other ∧ other.isSuccess = false ∧
        ((Session.mk accents.rules [] (.negation accentsSession.root)).run ⟨1, [], []⟩
          ['é', 'é'] 1).1 = .ok inverse ∧ inverse.isSuccess = false := by
  have hreach : accents.Reaches accentsSession ⟨1, [], []⟩ := .start rfl
  have hoptional : (accents.around .option).Reaches
      ⟨accents.rules, [], .option accentsSession.root⟩ ⟨1, [], []⟩ := .start rfl
  have hnegated : (accents.around .negation).Reaches
      ⟨accents.rules, [], .negation accentsSession.root⟩ ⟨1, [], []⟩ := .start rfl
  have houtside : Text.isBoundary ['é', 'é'] 1 = false := rfl
  have hrun : (accentsSession.run ⟨1, [], []⟩ ['é', 'é'] 1).1 =
      .ok (.failure (.invalidIndex 1)) := rfl
  obtain ⟨hfails, hoption, hnegation, hboth⟩ :=
    hreach.index_decides hoptional hnegated ['é', 'é'] 1
  obtain ⟨⟨other, hother⟩, inverse, hinverse⟩ := hboth _ hrun
  have hnot : other.isSuccess = false := by
    rw [← Bool.not_eq_true, hoption other hother, houtside]
    decide
  exact ⟨hreach, houtside, hrun, (hfails houtside).2, other, inverse, hother, hnot, hinverse,
    ((hnegation _ inverse hrun hinverse).2 houtside).2⟩

/-! ## §3. Where a run goes -/

/-- An anchor hands on a failure, and a match that stops at the end of the input. -/
theorem Grammar.Reaches.run_anchored (h : grammar.Reaches session store)
    (h' : (grammar.around .anchored).Reaches session' store')
    (hrun : (session.run store input index).1 = .ok outcome)
    (hends : ∀ success, outcome = .success success → success.stop = input.size) :
    (session'.run store' input index).1 = .ok outcome := by
  refine (h.run_anchored_iff h').2 ⟨outcome, hrun, ?_⟩
  cases outcome with
  | failure failure => rfl
  | success success => exact (atEnd_of_stop_eq (hends success rfl)).symm

/-- Any other match becomes a failure behind it. -/
theorem Grammar.Reaches.run_anchored_of_stop_ne (h : grammar.Reaches session store)
    (h' : (grammar.around .anchored).Reaches session' store') {success : Success (Value α)}
    (hrun : (session.run store input index).1 = .ok (.success success))
    (hstop : success.stop ≠ input.size) : ∃ found,
    (session'.run store' input index).1 = .ok (.failure (.trailing found success.stop)) := by
  have hboundary : input.isBoundary success.stop = true := (h.run_eq_ok_iff.1 hrun).isBoundary_stop
  obtain ⟨found, hfound⟩ := exists_atEnd_of_stop_ne hboundary hstop
  exact ⟨found, (h.run_anchored_iff h').2 ⟨_, hrun, hfound.symm⟩⟩

/-- A second anchor changes nothing. -/
theorem Grammar.Reaches.run_anchored_twice {session'' : Session κ α} {store'' : Store κ α}
    (h : grammar.Reaches session store) (h' : (grammar.around .anchored).Reaches session' store')
    (h'' : ((grammar.around .anchored).around .anchored).Reaches session'' store'') :
    (session''.run store'' input index).1 = .ok outcome ↔
      (session'.run store' input index).1 = .ok outcome := by
  rw [h'.run_anchored_iff h'']
  constructor
  · rintro ⟨inner, hinner, rfl⟩
    obtain ⟨body, _, rfl⟩ := (h.run_anchored_iff h').1 hinner
    rw [atEnd_atEnd]
    exact hinner
  · intro hrun
    obtain ⟨body, _, rfl⟩ := (h.run_anchored_iff h').1 hrun
    exact ⟨_, hrun, (atEnd_atEnd body).symm⟩

/-- **A run stays inside.** From a place of the input on, whatever it runs it runs at places of the
input, none of them earlier, and no failure complains about an index, were it on a branch that fails
or where the run only looks ahead. What the guards of sequences and anchors ask for is there at
every index, so an anchor does what it says: it hands on failures and matches that stop at the end
of the input, makes a failure to end out of the others, and a second one changes nothing. -/
theorem Grammar.Reaches.calls_inside {ended twice : Session κ α} {endedStore twiceStore : Store κ α}
    (h : grammar.Reaches session store)
    (hended : (grammar.around .anchored).Reaches ended endedStore)
    (htwice : ((grammar.around .anchored).around .anchored).Reaches twice twiceStore)
    (input : Text) (index : Nat) :
    (input.isBoundary index = true → ∀ other place,
      session.parser.Runs session.rule? input index other place →
        input.isBoundary place = true ∧ index ≤ place ∧ place ≤ input.size ∧
        ∀ failure, Evaluates session.rule? input ⊤ (.parse other place) (.failure failure) →
          ∀ n, failure.message ≠ (Failure.invalidIndex n).message) ∧
    (∀ first next place front back,
      Evaluates session.rule? input ⊤ (.parse first place) (.success front) →
      Evaluates session.rule? input ⊤ (.parse next front.stop) (.success back) →
      input.slice? place back.stop = some (front.text ++ back.text)) ∧
    (∀ body place success, Evaluates session.rule? input ⊤ (.parse body place) (.success success) →
      ∃ rest, input.dropBytes? success.stop = some rest) ∧
    (∀ failure, (session.run store input index).1 = .ok (.failure failure) →
      (ended.run endedStore input index).1 = .ok (.failure failure)) ∧
    (∀ success, (session.run store input index).1 = .ok (.success success) →
      (success.stop = input.size → (ended.run endedStore input index).1 = .ok (.success success)) ∧
      (success.stop ≠ input.size → ∃ failure,
        (ended.run endedStore input index).1 = .ok (.failure failure) ∧
          failure.kind = .termination ∧ failure.index = success.stop)) ∧
    (∀ outcome, (ended.run endedStore input index).1 = .ok outcome →
      ∃ inner, (session.run store input index).1 = .ok inner) ∧
    ∀ outcome, (twice.run twiceStore input index).1 = .ok outcome ↔
      (ended.run endedStore input index).1 = .ok outcome := by
  refine ⟨fun hboundary other place hruns => ?_, fun first next place front back hfront hback => ?_,
    fun body place success hbody => ?_, fun failure hrun => ?_, fun success hrun => ⟨?_, ?_⟩,
    fun outcome hrun => ?_, fun outcome => ?_⟩
  · obtain ⟨hplace, hle⟩ := hruns.inside hboundary
    exact ⟨hplace, hle, Text.le_size_of_isBoundary hplace,
      fun failure hfailure n => hfailure.message_ne_invalidIndex hplace n⟩
  · exact hfront.slice?_of_sequence hback
  · exact Option.isSome_iff_exists.1 hbody.isBoundary_stop
  · exact h.run_anchored hended hrun nofun
  · intro hstop
    refine h.run_anchored hended hrun fun other hother => ?_
    cases hother
    exact hstop
  · intro hstop
    obtain ⟨found, hfound⟩ := h.run_anchored_of_stop_ne hended hrun hstop
    exact ⟨_, hfound, rfl, rfl⟩
  · obtain ⟨inner, hinner, _⟩ := (h.run_anchored_iff hended).1 hrun
    exact ⟨inner, hinner⟩
  · exact h.run_anchored_twice hended htwice

/-- The groups are entered again behind an opening parenthesis, and an anchor around them fails in
front of what stands behind the closing one. -/
theorem calls_inside_groups :
    groups.Reaches groupsSession ⟨1, [], []⟩ ∧
      (∃ other, groupsSession.parser.Runs groupsSession.rule? ['(', ')', 'é'] 0 other 1 ∧
        Text.isBoundary ['(', ')', 'é'] 1 = true) ∧
      ∃ failure, ((Session.mk groups.rules [] (.anchored groupsSession.root)).run ⟨1, [], []⟩
          ['(', ')', 'é'] 0).1 = .ok (.failure failure) ∧
        failure.kind = .termination ∧ failure.index = 2 := by
  have hreach : groups.Reaches groupsSession ⟨1, [], []⟩ := .start rfl
  have hended : (groups.around .anchored).Reaches
      ⟨groups.rules, [], .anchored groupsSession.root⟩ ⟨1, [], []⟩ := .start rfl
  have htwice : ((groups.around .anchored).around .anchored).Reaches
      ⟨groups.rules, [], .anchored (.anchored groupsSession.root)⟩ ⟨1, [], []⟩ := .start rfl
  obtain ⟨hcalls, _, _, _, hends, _⟩ := hreach.calls_inside hended htwice ['(', ')', 'é'] 0
  have hparenthesis : Evaluates groupsSession.rule? ['(', ')', 'é'] ⊤
      (.parse (.literal ['(']) 0) (.success ⟨['('], 0, .text ['(']⟩) := .literal ['('] 0
  have hruns : groupsSession.parser.Runs groupsSession.rule? ['(', ')', 'é'] 0
      (.sequence (.repetition (.deferred ()) .many) (.literal [')'])) 1 :=
    .head .first (.head .repetition (.head (.unseparated rfl (.inl rfl)) (.head .body
      (.head (.deferred rfl) (.single (.next hparenthesis))))))
  have hrun : (groupsSession.run ⟨1, [], []⟩ ['(', ')', 'é'] 0).1 = .ok (.success ⟨['(', ')'], 0,
      .pair (.list [.pair (.text ['(']) (.pair (.list []) (.text [')']))]) .unit⟩) := rfl
  exact ⟨hreach, ⟨_, hruns, (hcalls rfl _ 1 hruns).1⟩, (hends _ hrun).2 (by decide)⟩

/-! ## §4. Where failures point -/

/-- **Where failures point.** From a place of the input on, a failure says something and points at a
place that is no earlier. A failure to end points at a character, and names it. A failure of any
kind but to match was made by a node of the parser, or of the rules it reaches, that makes such
failures. -/
theorem Grammar.Reaches.failure_points (h : grammar.Reaches session store)
    (hboundary : input.isBoundary index = true) {failure : Failure}
    (hrun : (session.run store input index).1 = .ok (.failure failure)) :
    failure.message ≠ "" ∧
      input.isBoundary failure.index = true ∧ index ≤ failure.index ∧
      failure.index ≤ input.size ∧
      (failure.kind = .termination → failure.index < input.size ∧
        ∃ found rest, input.dropBytes? failure.index = some (found :: rest) ∧
          failure = .trailing found failure.index) ∧
      (failure.kind = .conversion → ∃ body convert,
        session.parser.Holds session.rule? (.converted body convert)) ∧
      (failure.kind = .inversion → ∃ body, session.parser.Holds session.rule? (.negation body)) ∧
      (failure.kind = .termination → ∃ body,
        session.parser.Holds session.rule? (.anchored body)) := by
  have hevaluates := h.run_eq_ok_iff.1 hrun
  have hpoints : failure.Points input index :=
    hevaluates.points (Task.inside_parse hboundary) nofun
  refine ⟨hpoints.message_ne_empty, hpoints.boundary, hpoints.le,
    Text.le_size_of_isBoundary hpoints.boundary,
    fun hkind => ⟨hpoints.index_lt_size hkind, hpoints.trailing hkind⟩,
    fun hkind => ?_, fun hkind => ?_, fun hkind => ?_⟩
  · obtain ⟨node, hholds, hmakes⟩ := hevaluates.exists_maker hkind (by decide)
    obtain ⟨body, convert, rfl⟩ := hmakes.exists_converted
    exact ⟨body, convert, hholds⟩
  · obtain ⟨node, hholds, hmakes⟩ := hevaluates.exists_maker hkind (by decide)
    obtain ⟨body, rfl⟩ := hmakes.exists_negation
    exact ⟨body, hholds⟩
  · obtain ⟨node, hholds, hmakes⟩ := hevaluates.exists_maker hkind (by decide)
    obtain ⟨body, rfl⟩ := hmakes.exists_anchored
    exact ⟨body, hholds⟩

/-- Behind a pair of parentheses the input should have ended. -/
theorem failure_points_parentheses :
    parentheses.Reaches parenthesesSession ⟨1, [], []⟩ ∧
      Text.isBoundary ['(', ')', 'é'] 0 = true ∧
      (parenthesesSession.run ⟨1, [], []⟩ ['(', ')', 'é'] 0).1 =
        .ok (.failure (.trailing 'é' 2)) ∧
      (Failure.trailing 'é' 2).index < Text.size ['(', ')', 'é'] ∧
      ∃ body, parenthesesSession.parser.Holds parenthesesSession.rule? (.anchored body) := by
  have hreach : parentheses.Reaches parenthesesSession ⟨1, [], []⟩ := .start rfl
  have hboundary : Text.isBoundary ['(', ')', 'é'] 0 = true := rfl
  have hrun : (parenthesesSession.run ⟨1, [], []⟩ ['(', ')', 'é'] 0).1 =
      .ok (.failure (.trailing 'é' 2)) := rfl
  obtain ⟨_, _, _, _, hcharacter, _, _, hanchored⟩ := hreach.failure_points hboundary hrun
  exact ⟨hreach, hboundary, hrun, (hcharacter rfl).1, hanchored rfl⟩

end Runs

end Backtrack
