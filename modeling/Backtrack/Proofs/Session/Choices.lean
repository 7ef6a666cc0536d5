import Backtrack.Proofs.Parser.Anchors
import Backtrack.Proofs.Parser.Unfolding
import Backtrack.Proofs.Session.Places
import Backtrack.Proofs.Session.Templates

/-! # Choices, grouped and anchored

    Alternatives can be grouped into choices of choices, and an anchor can be
    put around a choice or around each of its alternatives. Both leave open
    what a grammar answers.

    Grouping is of no consequence: but for the list of alternatives in the
    message of a failure to match, a tree of choices answers as the one choice
    among its leaves.

    Anchors are. Inside of a choice they make an alternative that stops short
    fail, and a later one gets its turn. Around a choice they come too late
    for that. Either way the failure that is reported is that of the first
    alternative that matches.

    * `Grammar.grouping_irrelevant`: trees of choices.
    * `Grammar.anchors_inside_or_outside`: the two places of an anchor. -/

namespace Backtrack

variable {κ α : Type} [DecidableEq κ]

/-! ## §1. Groupings -/

/-- The same but for the message, and the same altogether unless both fail otherwise than for want
of an end. -/
def Outcome.SameButNames {β : Type} (outcome outcome' : Outcome β) : Prop :=
  outcome.SameButMessage outcome' ∧
    ∀ failure, outcome = .failure failure → failure.kind = .termination → outcome' = outcome

theorem Outcome.SameButNames.symm {β : Type} {outcome outcome' : Outcome β}
    (h : outcome.SameButNames outcome') : outcome'.SameButNames outcome := by
  obtain ⟨hsame, hend⟩ := h
  cases outcome with
  | success success =>
    cases outcome' with
    | success success' => exact ⟨Eq.symm hsame, nofun⟩
    | failure failure' => cases hsame
  | failure failure =>
    cases outcome' with
    | success success' => cases hsame
    | failure failure' =>
      refine ⟨⟨hsame.1.symm, hsame.2.symm⟩, ?_⟩
      intro other hother hkind
      cases hother
      exact (hend failure rfl (hsame.1.trans hkind)).symm

/-- Choices among the same alternatives differ in what they call them. -/
theorem Chooses.exists_sameButNames {σ β : Type} {answers : σ → Outcome β → Prop}
    {names names' : List String} {index : Nat} {alternatives : List σ} {outcome : Outcome β}
    (h : Chooses answers names index alternatives outcome) :
    ∃ outcome', Chooses answers names' index alternatives outcome' ∧
      outcome.SameButNames outcome' := by
  cases h with
  | matched hmatch => exact ⟨_, .matched hmatch, rfl, nofun⟩
  | ended hend => exact ⟨_, .ended hend, ⟨rfl, rfl⟩, fun _ _ _ => rfl⟩
  | declined hall =>
    refine ⟨_, .declined hall, ⟨rfl, rfl⟩, ?_⟩
    intro failure hfailure hkind
    cases hfailure
    cases hkind

section Groupings

variable {grammar : Grammar κ α} {session : Session κ α} {store : Store κ α} {input : Text}
  {index : Nat} {parser : Template κ α} {alternatives leaves : List (Template κ α)}

/-- A choice that can be built is as good as its alternatives. -/
theorem Grammar.Starts.sameVerdict
    (hstarts : (grammar.around fun _ => .choice alternatives).Starts) :
    SameVerdict (grammar.Answers input index) (grammar.Answers input index)
      [.choice alternatives] alternatives := by
  obtain ⟨names, hanswers⟩ := Grammar.exists_answers_choice_iff hstarts
  exact .of_chooses (hanswers input index)

/-- What is put together from leaves can be run if the choice among them can. -/
theorem Grammar.starts_gathered_iff (hgathers : parser.Gathers leaves) :
    (grammar.around fun _ => parser).Starts ↔ (grammar.around fun _ => .choice leaves).Starts := by
  refine Grammar.starts_iff_of_buildable fun shared => ?_
  rw [buildable_choice_iff]
  exact hgathers.sound_iff fun _ => buildable_choice_iff

/-- What is put together from leaves comes to what the leaves come to one after the other. -/
theorem Grammar.Starts.sameVerdict_gathered (hgathers : parser.Gathers leaves)
    (hstarts : (grammar.around fun _ => parser).Starts) :
    SameVerdict (grammar.Answers input index) (grammar.Answers input index) [parser] leaves := by
  obtain ⟨session, store, h⟩ := hstarts.exists_reaches
  have hchoice (alternatives : List (Template κ α))
      (hbuildable : Buildable session.shared (.choice alternatives)) :
      SameVerdict (grammar.Answers input index) (grammar.Answers input index)
        [.choice alternatives] alternatives := by
    have hinner : (grammar.around fun _ => .choice alternatives).Starts :=
      (h.starts_iff _).2 hbuildable
    exact hinner.sameVerdict
  have hparser := (h.starts_iff parser).1 hstarts
  exact hgathers.sameVerdict (fun _ => buildable_choice_iff) hchoice hparser

/-- A tree of choices answers as a choice among its leaves does. -/
theorem Grammar.Reaches.exists_run_gathered_iff
    (h : (grammar.around fun _ => .choice alternatives).Reaches session store)
    (hgathers : (Parser.choice alternatives).Gathers leaves) :
    ∃ names, ∀ input index outcome, (session.run store input index).1 = .ok outcome ↔
      Chooses (grammar.Answers input index) names index leaves outcome := by
  obtain ⟨names, hanswers⟩ := Grammar.exists_answers_choice_iff h.starts
  refine ⟨names, fun input index outcome => ?_⟩
  have hverdict : SameVerdict (grammar.Answers input index) (grammar.Answers input index)
      [.choice alternatives] leaves := h.starts.sameVerdict_gathered hgathers
  rw [← h.answers_iff_run, hanswers]
  exact (h.starts.sameVerdict.symm.trans hverdict).chooses_iff

/-- **Grouping is of no consequence.** Put choices together from any parsers, as alternatives of
choices or one by one with `or`, empty choices among them. The tree can be built if the one choice
among its leaves can. On every input and at every index, whatever has been run before, both answer
with the same match, the same failure for want of an end, or failures of the same kind at the same
index. The match is that of the first leaf that matches, and the failure for want of an end is that
of the first leaf that fails so. -/
theorem Grammar.grouping_irrelevant (grammar : Grammar κ α)
    (hgathers : (Parser.choice alternatives).Gathers leaves) :
    ((grammar.around fun _ => .choice alternatives).Starts ↔
      (grammar.around fun _ => .choice leaves).Starts) ∧
    ∀ session store flat flatStore,
      (grammar.around fun _ => .choice alternatives).Reaches session store →
      (grammar.around fun _ => .choice leaves).Reaches flat flatStore → ∀ input index,
        (∀ outcome, (session.run store input index).1 = .ok outcome →
          ∃ outcome', (flat.run flatStore input index).1 = .ok outcome' ∧
            outcome.SameButNames outcome') ∧
        (∀ outcome', (flat.run flatStore input index).1 = .ok outcome' →
          ∃ outcome, (session.run store input index).1 = .ok outcome ∧
            outcome.SameButNames outcome') ∧
        (∀ success,
          ((session.run store input index).1 = .ok (.success success) ↔
            FirstMatch (grammar.Answers input index) leaves success) ∧
          ((flat.run flatStore input index).1 = .ok (.success success) ↔
            FirstMatch (grammar.Answers input index) leaves success)) ∧
        ∀ failure, failure.kind = .termination →
          ((session.run store input index).1 = .ok (.failure failure) ↔
            FirstEnd (grammar.Answers input index) leaves failure) ∧
          ((flat.run flatStore input index).1 = .ok (.failure failure) ↔
            FirstEnd (grammar.Answers input index) leaves failure) := by
  refine ⟨Grammar.starts_gathered_iff hgathers, ?_⟩
  intro session store flat flatStore h hflat input index
  obtain ⟨names, htree⟩ := h.exists_run_gathered_iff hgathers
  obtain ⟨names', hchoice⟩ := Grammar.exists_answers_choice_iff hflat.starts
  simp only [htree, ← hflat.answers_iff_run, hchoice]
  refine ⟨fun outcome houtcome => ?_, fun outcome' houtcome' => ?_, fun success => ?_,
    fun failure hkind => ?_⟩
  · obtain ⟨outcome', houtcome', hsame⟩ := houtcome.exists_sameButNames
    exact ⟨outcome', houtcome', hsame⟩
  · obtain ⟨outcome, houtcome, hsame⟩ := houtcome'.exists_sameButNames
    exact ⟨outcome, houtcome, hsame.symm⟩
  · exact ⟨chooses_success_iff, chooses_success_iff⟩
  · exact ⟨chooses_termination_iff hkind, chooses_termination_iff hkind⟩

end Groupings

/-- A letter, which is a rule as well. -/
def letters : Grammar Unit Unit where
  rules := [((), .literal ['a'])]
  root := .literal ['a']

/-- Choices among letters, where one is empty, one is inside of another, and the last alternative
was added to them. -/
def lettersTree : List (Template Unit Unit) :=
  [.choice [], .choice [.literal ['x'], .anchored (.literal ['a'])],
    .anchored (.literal ['a', 'b'])]

/-- The letters alone. -/
def lettersLeaves : List (Template Unit Unit) :=
  [.literal ['x'], .anchored (.literal ['a']), .anchored (.literal ['a', 'b'])]

theorem lettersTree_gathers : (Parser.choice lettersTree).Gathers lettersLeaves := by
  have hempty : (Parser.choice ([] : List (Template Unit Unit))).Gathers [] :=
    .choice [] (fun _ hmem => absurd hmem List.not_mem_nil)
  have hinner : (Parser.choice [.literal ['x'], .anchored (.literal ['a'])] :
      Template Unit Unit).Gathers [.literal ['x'], .anchored (.literal ['a'])] := by
    refine .choice [(.literal ['x'], [.literal ['x']]),
      (.anchored (.literal ['a']), [.anchored (.literal ['a'])])] ?_
    intro part hmem
    rcases List.mem_cons.1 hmem with rfl | hmem
    · exact .leaf _
    · obtain rfl := List.mem_singleton.1 hmem
      exact .leaf _
  have hboth : (Parser.choice [.choice [], .choice [.literal ['x'], .anchored (.literal ['a'])]] :
      Template Unit Unit).Gathers [.literal ['x'], .anchored (.literal ['a'])] := by
    refine .choice [(.choice [], []), (.choice [.literal ['x'], .anchored (.literal ['a'])],
      [.literal ['x'], .anchored (.literal ['a'])])] ?_
    intro part hmem
    rcases List.mem_cons.1 hmem with rfl | hmem
    · exact hempty
    · obtain rfl := List.mem_singleton.1 hmem
      exact hinner
  exact .or hboth (.leaf _)

/-- Both fail in front of the second letter, since the first leaf that matches has stopped there. -/
theorem grouping_irrelevant_letters :
    (Parser.choice lettersTree).Gathers lettersLeaves ∧
      ∃ session store flat flatStore,
        (letters.around fun _ => .choice lettersTree).Reaches session store ∧
        (letters.around fun _ => .choice lettersLeaves).Reaches flat flatStore ∧
        (session.run store ['a', 'b', 'c'] 0).1 = .ok (.failure (.trailing 'b' 1)) ∧
        (flat.run flatStore ['a', 'b', 'c'] 0).1 = .ok (.failure (.trailing 'b' 1)) ∧
        FirstEnd (letters.Answers ['a', 'b', 'c'] 0) lettersLeaves (.trailing 'b' 1) := by
  have htree : (letters.around fun _ => .choice lettersTree).Reaches
      ⟨letters.rules, [], .choice [.choice [], .choice [.literal ['x'], .anchored (.literal ['a'])],
        .anchored (.literal ['a', 'b'])]⟩ ⟨0, [], []⟩ := .start rfl
  have hflat : (letters.around fun _ => .choice lettersLeaves).Reaches
      ⟨letters.rules, [], .choice [.literal ['x'], .anchored (.literal ['a']),
        .anchored (.literal ['a', 'b'])]⟩ ⟨0, [], []⟩ := .start rfl
  obtain ⟨_, hruns⟩ := letters.grouping_irrelevant lettersTree_gathers
  obtain ⟨_, _, _, hends⟩ := hruns _ _ _ _ htree hflat ['a', 'b', 'c'] 0
  have hend := (hends (.trailing 'b' 1) rfl).1.1 rfl
  exact ⟨lettersTree_gathers, _, _, _, _, htree, hflat, rfl, (hends _ rfl).2.2 hend, hend⟩

/-! ## §2. Anchored alternatives -/

/-- The template has no anchor, and none is in the rules that it reaches. -/
def Grammar.Unanchored (grammar : Grammar κ α) (template : Template κ α) : Prop :=
  ∀ session store, (grammar.around fun _ => template).Reaches session store →
    ∀ body, ¬ session.parser.Holds session.rule? (.anchored body)

section Anchored

variable {σ : Type} (answers : σ → Outcome (Value α) → Prop) (input : Text)

/-- What the alternative answers with an anchor around it. -/
def EndAnswers (alternative : σ) (outcome : Outcome (Value α)) : Prop :=
  ∃ inner, answers alternative inner ∧ outcome = atEnd input inner

/-- The alternative has an answer, and it is no match up to the end of the input. -/
def FallsShort (alternative : σ) : Prop :=
  ∃ outcome, answers alternative outcome ∧
    ∀ success, outcome = .success success → success.stop ≠ input.size

/-- This is what the first alternative matches that matches up to the end of the input. -/
def FirstWhole (alternatives : List σ) (success : Success (Value α)) : Prop :=
  success.stop = input.size ∧ ∃ front alternative rest,
    alternatives = front ++ alternative :: rest ∧
      (∀ other ∈ front, FallsShort answers input other) ∧ answers alternative (.success success)

variable {answers input} {x : σ} {xs : List σ} {names : List String} {index : Nat}
  {success : Success (Value α)} {outcome : Outcome (Value α)}
  (hplace : ∀ x success, answers x (.success success) → input.isBoundary success.stop = true)

theorem Fails.fallsShort (h : Fails answers x) : FallsShort answers input x := by
  obtain ⟨failure, hfails⟩ := h
  exact ⟨_, hfails, nofun⟩

theorem Fails.declines (h : Fails answers x)
    (hkind : ∀ failure, answers x (.failure failure) → failure.kind ≠ .termination) :
    Declines (EndAnswers answers input) x := by
  obtain ⟨failure, hfails⟩ := h
  exact ⟨failure, ⟨_, hfails, rfl⟩, hkind failure hfails⟩

/-- A match of the choice that stops at the end of the input is one up to the end. -/
theorem FirstMatch.firstWhole (h : FirstMatch answers xs success)
    (hstop : success.stop = input.size) : FirstWhole answers input xs success := by
  obtain ⟨front, x, rest, hsplit, hfront, hmatch⟩ := h
  exact ⟨hstop, front, x, rest, hsplit, fun other hmem => (hfront other hmem).fallsShort, hmatch⟩

include hplace

/-- An anchor hands on a failure and a match up to the end of the input, and makes a failure of any
other match. -/
theorem endAnswers_iff :
    EndAnswers answers input x outcome ↔
      (∃ failure, answers x (.failure failure) ∧ outcome = .failure failure) ∨
      (∃ success, answers x (.success success) ∧ success.stop = input.size ∧
        outcome = .success success) ∨
      ∃ success found rest, answers x (.success success) ∧ success.stop ≠ input.size ∧
        input.dropBytes? success.stop = some (found :: rest) ∧
        outcome = .failure (.trailing found success.stop) := by
  constructor
  · rintro ⟨inner, hinner, rfl⟩
    cases inner with
    | failure failure => exact .inl ⟨failure, hinner, rfl⟩
    | success success =>
      by_cases hstop : success.stop = input.size
      · exact .inr (.inl ⟨success, hinner, hstop, atEnd_of_stop_eq hstop⟩)
      · obtain ⟨found, rest, hfound⟩ := Text.exists_dropBytes?_of_ne (hplace x success hinner) hstop
        exact .inr (.inr ⟨success, found, rest, hinner, hstop, hfound, atEnd_of_dropBytes? hfound⟩)
  · rintro (⟨failure, hfails, rfl⟩ | ⟨success, hmatch, hstop, rfl⟩ |
      ⟨success, found, rest, hmatch, _, hfound, rfl⟩)
    · exact ⟨_, hfails, rfl⟩
    · exact ⟨_, hmatch, (atEnd_of_stop_eq hstop).symm⟩
    · exact ⟨_, hmatch, (atEnd_of_dropBytes? hfound).symm⟩

/-- A match that an anchor lets pass is one up to the end of the input. -/
theorem endAnswers_success_iff :
    EndAnswers answers input x (.success success) ↔
      answers x (.success success) ∧ success.stop = input.size := by
  rw [endAnswers_iff hplace]
  simp

/-- With an anchor around it an alternative fails where it falls short. -/
theorem fails_endAnswers_iff :
    Fails (EndAnswers answers input) x ↔ FallsShort answers input x := by
  constructor
  · rintro ⟨failure, hfailure⟩
    rcases (endAnswers_iff hplace).1 hfailure with
      ⟨other, hfails, _⟩ | ⟨_, _, _, hnot⟩ | ⟨matched, _, _, hmatch, hstop, _⟩
    · exact ⟨_, hfails, nofun⟩
    · cases hnot
    · refine ⟨_, hmatch, ?_⟩
      intro other hother
      cases hother
      exact hstop
  · rintro ⟨outcome, houtcome, hshort⟩
    cases outcome with
    | failure failure => exact ⟨failure, _, houtcome, rfl⟩
    | success matched =>
      obtain ⟨found, hfound⟩ := exists_atEnd_of_stop_ne (hplace x matched houtcome) (hshort _ rfl)
      exact ⟨_, _, houtcome, hfound.symm⟩

/-- Of anchored alternatives the first match is the first one up to the end of the input. -/
theorem firstMatch_endAnswers_iff :
    FirstMatch (EndAnswers answers input) xs success ↔ FirstWhole answers input xs success := by
  unfold FirstMatch FirstWhole
  simp only [fails_endAnswers_iff hplace, endAnswers_success_iff hplace]
  constructor
  · rintro ⟨front, alternative, rest, hsplit, hfront, hmatch, hstop⟩
    exact ⟨hstop, front, alternative, rest, hsplit, hfront, hmatch⟩
  · rintro ⟨hstop, front, alternative, rest, hsplit, hfront, hmatch⟩
    exact ⟨front, alternative, rest, hsplit, hfront, hmatch, hstop⟩

/-- A choice among anchored alternatives fails only where all of them fall short. -/
theorem Chooses.fallsShort {failure : Failure}
    (h : Chooses (EndAnswers answers input) names index xs (.failure failure)) :
    ∀ x ∈ xs, FallsShort answers input x := by
  have hfails : ∀ x ∈ xs, Fails (EndAnswers answers input) x := by
    cases h with
    | ended hend => exact forall_fails_iff.2 (.inl ⟨failure, hend⟩)
    | declined hall => exact forall_fails_iff.2 (.inr hall)
  intro x hmem
  exact (fails_endAnswers_iff hplace).1 (hfails x hmem)

/-- Where all fall short, the first match makes the first failure for want of an end. -/
theorem FirstMatch.exists_firstEnd (h : FirstMatch answers xs success)
    (hshort : ∀ x ∈ xs, FallsShort answers input x)
    (hkind : ∀ x ∈ xs, ∀ failure, answers x (.failure failure) → failure.kind ≠ .termination)
    (hunique : ∀ x outcome outcome', answers x outcome → answers x outcome' → outcome = outcome') :
    ∃ found rest, input.dropBytes? success.stop = some (found :: rest) ∧
      FirstEnd (EndAnswers answers input) xs (.trailing found success.stop) := by
  obtain ⟨front, x, behind, rfl, hfront, hmatch⟩ := h
  -- The one that matches has no other answer, so this match is the one that falls short.
  have hmem : x ∈ front ++ x :: behind := List.mem_append_right front List.mem_cons_self
  obtain ⟨outcome, houtcome, hnot⟩ := hshort x hmem
  have hstop : success.stop ≠ input.size := hnot success (hunique x _ _ houtcome hmatch)
  obtain ⟨found, rest, hfound⟩ := Text.exists_dropBytes?_of_ne (hplace x success hmatch) hstop
  refine ⟨found, rest, hfound, rfl, front, x, behind, rfl, ?_, ?_, ?_⟩
  · intro other hother
    exact (hfront other hother).declines (hkind other (List.mem_append_left _ hother))
  · exact ⟨_, hmatch, (atEnd_of_dropBytes? hfound).symm⟩
  · intro other hother
    exact (fails_endAnswers_iff hplace).2
      (hshort other (List.mem_append_right front (List.mem_cons_of_mem x hother)))

end Anchored

section Anchors

variable {grammar : Grammar κ α} {session : Session κ α} {store : Store κ α} {input : Text}
  {index : Nat} {template : Template κ α} {parsers : List (Template κ α)}
  {success : Success (Value α)} {failure : Failure}

theorem Grammar.Answers.isBoundary_stop
    (h : grammar.Answers input index template (.success success)) :
    input.isBoundary success.stop = true := by
  obtain ⟨session, store, hreach⟩ := h.starts.exists_reaches
  exact (hreach.run_eq_ok_iff.1 (h.runs session store hreach)).isBoundary_stop

/-- What reaches no anchor does not fail for want of an end. -/
theorem Grammar.Unanchored.kind_ne_termination (hunanchored : grammar.Unanchored template)
    (h : grammar.Answers input index template (.failure failure)) :
    failure.kind ≠ .termination := by
  intro hkind
  obtain ⟨session, store, hreach⟩ := h.starts.exists_reaches
  have hevaluates := hreach.run_eq_ok_iff.1 (h.runs session store hreach)
  -- Such a failure is made by an anchor that the template reaches.
  obtain ⟨node, hholds, hmakes⟩ := hevaluates.exists_maker hkind (by decide)
  obtain ⟨body, rfl⟩ := hmakes.exists_anchored
  exact hunanchored session store hreach body hholds

/-- A choice among anchored parsers runs their anchored answers. -/
theorem Grammar.Reaches.exists_run_anchored_each_iff
    (h : (grammar.around fun _ => .choice (parsers.map .anchored)).Reaches session store) :
    ∃ names, ∀ input index outcome, (session.run store input index).1 = .ok outcome ↔
      Chooses (EndAnswers (grammar.Answers input index) input) names index parsers outcome := by
  obtain ⟨names, hanswers⟩ := Grammar.exists_answers_choice_iff h.starts
  refine ⟨names, fun input index outcome => ?_⟩
  have halike : List.Forall₂ (fun template parser => ∀ outcome,
      grammar.Answers input index template outcome ↔
        EndAnswers (grammar.Answers input index) input parser outcome)
      (parsers.map .anchored) parsers := by
    rw [List.forall₂_map_left_iff, List.forall₂_same]
    intro parser _ outcome
    exact Grammar.answers_anchored_iff
  rw [← h.answers_iff_run, hanswers]
  exact (SameVerdict.of_forall₂ halike).chooses_iff

/-- The two places of an anchor make no difference to what can be built. -/
theorem Grammar.starts_anchors_iff :
    (grammar.around fun _ => .choice (parsers.map .anchored)).Starts ↔
      (grammar.around fun _ => .anchored (.choice parsers)).Starts := by
  refine Grammar.starts_iff_of_buildable fun shared => ?_
  simp only [buildable_anchored_iff, buildable_choice_iff, List.forall_mem_map]

/-- A template without anchors over rules without anchors reaches none. -/
theorem Grammar.Reaches.unanchored (h : grammar.Reaches session store) {parser : Parser κ α}
    (hbuilds : Builds session.shared template parser) (hparser : parser.anchorless = true)
    (hrules : ∀ name rule, session.rule? name = some rule → rule.anchorless = true) :
    grammar.Unanchored template := by
  intro session' store' h' body hholds
  obtain ⟨hsame, hsameRules⟩ := h.parser_around h' hbuilds
  rw [hsame, hsameRules] at hholds
  have hbody := Parser.anchorless_of_holds hrules hparser hholds
  cases hbody

section Inside

variable (h : (grammar.around fun _ => .choice (parsers.map .anchored)).Reaches session store)
include h

/-- Anchored each on its own, alternatives match what the first one does that matches all. -/
theorem Grammar.Reaches.run_inside_success_iff :
    (session.run store input index).1 = .ok (.success success) ↔
      FirstWhole (grammar.Answers input index) input parsers success := by
  obtain ⟨names, hinside⟩ := h.exists_run_anchored_each_iff
  rw [hinside, chooses_success_iff]
  exact firstMatch_endAnswers_iff fun _ _ hmatch => hmatch.isBoundary_stop

/-- They fail only where all of them fall short. -/
theorem Grammar.Reaches.fallsShort_of_run_inside
    (hrun : (session.run store input index).1 = .ok (.failure failure)) :
    ∀ parser ∈ parsers, FallsShort (grammar.Answers input index) input parser := by
  obtain ⟨names, hinside⟩ := h.exists_run_anchored_each_iff
  exact ((hinside _ _ _).1 hrun).fallsShort fun _ _ hmatch => hmatch.isBoundary_stop

/-- Where all of them answer, so does the choice. -/
theorem Grammar.Reaches.exists_run_inside
    (hanswers : ∀ parser ∈ parsers, ∃ outcome, grammar.Answers input index parser outcome) :
    ∃ outcome, (session.run store input index).1 = .ok outcome := by
  obtain ⟨names, hinside⟩ := h.exists_run_anchored_each_iff
  have hanchored : ∀ parser ∈ parsers,
      ∃ outcome, EndAnswers (grammar.Answers input index) input parser outcome := by
    intro parser hmem
    obtain ⟨inner, hinner⟩ := hanswers parser hmem
    exact ⟨_, inner, hinner, rfl⟩
  obtain ⟨outcome, houtcome⟩ := exists_chooses names index hanchored
  exact ⟨outcome, (hinside _ _ _).2 houtcome⟩

variable (hunanchored : ∀ parser ∈ parsers, grammar.Unanchored parser)
include hunanchored

/-- Where all fall short, the choice fails behind the first match. -/
theorem Grammar.Reaches.exists_run_inside_trailing
    (hshort : ∀ parser ∈ parsers, FallsShort (grammar.Answers input index) input parser)
    (hmatch : FirstMatch (grammar.Answers input index) parsers success) :
    ∃ found rest, input.dropBytes? success.stop = some (found :: rest) ∧
      (session.run store input index).1 = .ok (.failure (.trailing found success.stop)) := by
  obtain ⟨names, hinside⟩ := h.exists_run_anchored_each_iff
  obtain ⟨found, rest, hfound, hend⟩ := hmatch.exists_firstEnd
    (fun _ _ hother => hother.isBoundary_stop) hshort
    (fun parser hmem _ hfails => (hunanchored parser hmem).kind_ne_termination hfails)
    fun _ _ _ => Grammar.Answers.unique
  exact ⟨found, rest, hfound, (hinside _ _ _).2 (.ended hend)⟩

/-- Where all fail, the choice fails to match. -/
theorem Grammar.Reaches.exists_run_inside_parsing
    (hfails : ∀ parser ∈ parsers, Fails (grammar.Answers input index) parser) :
    ∃ failure, (session.run store input index).1 = .ok (.failure failure) ∧
      failure.kind = .parsing ∧ failure.index = index := by
  obtain ⟨names, hinside⟩ := h.exists_run_anchored_each_iff
  have hdeclines : ∀ parser ∈ parsers,
      Declines (EndAnswers (grammar.Answers input index) input) parser := by
    intro parser hmem
    exact (hfails parser hmem).declines
      fun _ hfailure => (hunanchored parser hmem).kind_ne_termination hfailure
  exact ⟨_, (hinside _ _ _).2 (.declined hdeclines), rfl, rfl⟩

end Inside

section Outside

variable (h : (grammar.around fun _ => .anchored (.choice parsers)).Reaches session store)
include h

/-- What is inside of the anchor answers as a choice does. -/
theorem Grammar.Reaches.exists_answers_inside_iff :
    ∃ names, ∀ input index outcome, grammar.Answers input index (.choice parsers) outcome ↔
      Chooses (grammar.Answers input index) names index parsers outcome := by
  apply Grammar.exists_answers_choice_iff
  exact (Grammar.starts_iff_of_buildable fun _ => buildable_anchored_iff).1 h.starts

/-- With the anchor around the choice, what matches is the first match, up to the end. -/
theorem Grammar.Reaches.firstMatch_of_run_outside
    (hrun : (session.run store input index).1 = .ok (.success success)) :
    FirstMatch (grammar.Answers input index) parsers success ∧ success.stop = input.size := by
  obtain ⟨names, hanswers⟩ := h.exists_answers_inside_iff
  rw [← h.answers_iff_run, Grammar.answers_anchored_iff] at hrun
  obtain ⟨hmatch, hstop⟩ :=
    (endAnswers_success_iff fun _ _ hother => hother.isBoundary_stop).1 hrun
  exact ⟨chooses_success_iff.1 ((hanswers _ _ _).1 hmatch), hstop⟩

/-- Of parsers that reach no anchor, it fails for want of an end behind the first match. -/
theorem Grammar.Reaches.exists_firstMatch_of_run_outside
    (hunanchored : ∀ parser ∈ parsers, grammar.Unanchored parser)
    (hrun : (session.run store input index).1 = .ok (.failure failure))
    (hkind : failure.kind = .termination) :
    ∃ success found rest, FirstMatch (grammar.Answers input index) parsers success ∧
      input.dropBytes? success.stop = some (found :: rest) ∧
      failure = .trailing found success.stop := by
  obtain ⟨names, hanswers⟩ := h.exists_answers_inside_iff
  rw [← h.answers_iff_run, Grammar.answers_anchored_iff] at hrun
  rcases (endAnswers_iff fun _ _ hother => hother.isBoundary_stop).1 hrun with
    ⟨_, hfails, hsame⟩ | ⟨_, _, _, hnot⟩ | ⟨success, found, rest, hmatch, _, hfound, hsame⟩
  · -- The choice would have taken over the failure of an alternative.
    cases hsame
    have hend := (chooses_termination_iff hkind).1 ((hanswers _ _ _).1 hfails)
    obtain ⟨_, front, parser, behind, hsplit, _, hparser, _⟩ := hend
    have hmem : parser ∈ parsers := by
      rw [hsplit]
      exact List.mem_append_right front List.mem_cons_self
    exact absurd hkind ((hunanchored parser hmem).kind_ne_termination hparser)
  · cases hnot
  · have hfirst := chooses_success_iff.1 ((hanswers _ _ _).1 hmatch)
    exact ⟨success, found, rest, hfirst, hfound, Outcome.failure.inj hsame⟩

end Outside

/-- **The two places of an anchor.** Take parsers that reach no anchor, and anchor each of them
inside of a choice. The choice matches what the first of them matches that matches up to the end of
the input. If none does, it fails in front of the character behind the first match, or at the index
itself where nothing matches. It answers where all of them do. With the anchor around the choice
instead, whatever matches is matched by the former as well, and where that fails for want of an end
the former fails alike, if it does not succeed. -/
theorem Grammar.anchors_inside_or_outside
    (hunanchored : ∀ parser ∈ parsers, grammar.Unanchored parser) :
    ((grammar.around fun _ => .choice (parsers.map .anchored)).Starts ↔
      (grammar.around fun _ => .anchored (.choice parsers)).Starts) ∧
    ∀ inside store outside outsideStore,
      (grammar.around fun _ => .choice (parsers.map .anchored)).Reaches inside store →
      (grammar.around fun _ => .anchored (.choice parsers)).Reaches outside outsideStore →
      ∀ input index,
        (∀ success, (inside.run store input index).1 = .ok (.success success) ↔
          FirstWhole (grammar.Answers input index) input parsers success) ∧
        (∀ failure, (inside.run store input index).1 = .ok (.failure failure) →
          ∀ parser ∈ parsers, FallsShort (grammar.Answers input index) input parser) ∧
        (∀ success, (∀ parser ∈ parsers, FallsShort (grammar.Answers input index) input parser) →
          FirstMatch (grammar.Answers input index) parsers success →
          ∃ found rest, input.dropBytes? success.stop = some (found :: rest) ∧
            (inside.run store input index).1 = .ok (.failure (.trailing found success.stop))) ∧
        ((∀ parser ∈ parsers, Fails (grammar.Answers input index) parser) →
          ∃ failure, (inside.run store input index).1 = .ok (.failure failure) ∧
            failure.kind = .parsing ∧ failure.index = index) ∧
        ((∀ parser ∈ parsers, ∃ outcome, grammar.Answers input index parser outcome) →
          ∃ outcome, (inside.run store input index).1 = .ok outcome) ∧
        (∀ success, (outside.run outsideStore input index).1 = .ok (.success success) →
          (inside.run store input index).1 = .ok (.success success)) ∧
        ∀ failure, (outside.run outsideStore input index).1 = .ok (.failure failure) →
          failure.kind = .termination → ∀ outcome, (inside.run store input index).1 = .ok outcome →
            (∃ success, outcome = .success success) ∨ outcome = .failure failure := by
  refine ⟨Grammar.starts_anchors_iff, ?_⟩
  intro inside store outside outsideStore h h' input index
  have hshort {failure : Failure}
      (hrun : (inside.run store input index).1 = .ok (.failure failure)) :
      ∀ parser ∈ parsers, FallsShort (grammar.Answers input index) input parser :=
    h.fallsShort_of_run_inside hrun
  refine ⟨fun success => h.run_inside_success_iff, fun failure => hshort, fun success hall hmatch =>
    h.exists_run_inside_trailing hunanchored hall hmatch,
    h.exists_run_inside_parsing hunanchored, h.exists_run_inside, fun success hrun => ?_,
    fun failure hrun hkind outcome hother => ?_⟩
  · obtain ⟨hmatch, hstop⟩ := h'.firstMatch_of_run_outside hrun
    exact h.run_inside_success_iff.2 (hmatch.firstWhole hstop)
  · cases outcome with
    | success success => exact .inl ⟨success, rfl⟩
    | failure other =>
      -- Both fail behind the same match.
      obtain ⟨success, found, rest, hmatch, hfound, rfl⟩ :=
        h'.exists_firstMatch_of_run_outside hunanchored hrun hkind
      obtain ⟨found', rest', hfound', hrun'⟩ :=
        h.exists_run_inside_trailing hunanchored (hshort hother) hmatch
      rw [hfound] at hfound'
      cases hfound'
      exact .inr (Except.ok.inj (hother.symm.trans hrun'))

end Anchors

/-- A letter that is a rule, three letters, and another one. -/
def lettersAnchored : List (Template Unit Unit) :=
  [.deferred (.rule ()), .literal ['a', 'b', 'c'], .literal ['x']]

theorem lettersAnchored_unanchored : ∀ parser ∈ lettersAnchored, letters.Unanchored parser := by
  have hreach : letters.Reaches ⟨letters.rules, [], .literal ['a']⟩ ⟨0, [], []⟩ := .start rfl
  have hrules (name : Unit) (rule : Parser Unit Unit)
      (hrule : (Session.mk letters.rules [] (.literal ['a'])).rule? name = some rule) :
      rule.anchorless = true := by
    cases hrule
    rfl
  have hrule : Builds ([] : SharedParsers Unit Unit) (.deferred (.rule ())) (.deferred ()) :=
    fun n => ⟨.deferred ⟨n, ()⟩, n + 1, rfl, rfl⟩
  have hliteral (text : Text) :
      Builds ([] : SharedParsers Unit Unit) (.literal text) (.literal text) :=
    fun n => ⟨.literal text, n, rfl, rfl⟩
  intro parser hmem
  rcases List.mem_cons.1 hmem with rfl | hmem
  · exact hreach.unanchored hrule rfl hrules
  rcases List.mem_cons.1 hmem with rfl | hmem
  · exact hreach.unanchored (hliteral _) rfl hrules
  obtain rfl := List.mem_singleton.1 hmem
  exact hreach.unanchored (hliteral _) rfl hrules

/-- Anchored inside, the three letters are matched as a whole, which the first one alone prevents
with the anchor outside. Where other letters follow, the failure is behind the first one. -/
theorem anchors_inside_or_outside_letters :
    (∀ parser ∈ lettersAnchored, letters.Unanchored parser) ∧
      ∃ inside store outside outsideStore,
        (letters.around fun _ => .choice (lettersAnchored.map .anchored)).Reaches inside store ∧
        (letters.around fun _ => .anchored (.choice lettersAnchored)).Reaches outside
          outsideStore ∧
        FirstWhole (letters.Answers ['a', 'b', 'c'] 0) ['a', 'b', 'c'] lettersAnchored
          ⟨['a', 'b', 'c'], 0, .text ['a', 'b', 'c']⟩ ∧
        (outside.run outsideStore ['a', 'b', 'c'] 0).1 = .ok (.failure (.trailing 'b' 1)) ∧
        (inside.run store ['a', 'd'] 0).1 = .ok (.failure (.trailing 'd' 1)) := by
  have hinside : (letters.around fun _ => .choice (lettersAnchored.map .anchored)).Reaches
      ⟨letters.rules, [], .choice [.anchored (.deferred ⟨0, ()⟩),
        .anchored (.literal ['a', 'b', 'c']), .anchored (.literal ['x'])]⟩ ⟨1, [], []⟩ := .start rfl
  have houtside : (letters.around fun _ => .anchored (.choice lettersAnchored)).Reaches
      ⟨letters.rules, [], .anchored (.choice [.deferred ⟨0, ()⟩, .literal ['a', 'b', 'c'],
        .literal ['x']])⟩ ⟨1, [], []⟩ := .start rfl
  obtain ⟨_, hruns⟩ := Grammar.anchors_inside_or_outside lettersAnchored_unanchored
  obtain ⟨hwhole, _⟩ := hruns _ _ _ _ hinside houtside ['a', 'b', 'c'] 0
  exact ⟨lettersAnchored_unanchored, _, _, _, _, hinside, houtside, (hwhole _).1 rfl, rfl, rfl⟩

end Backtrack
