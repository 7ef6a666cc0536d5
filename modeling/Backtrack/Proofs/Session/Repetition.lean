import Backtrack.Proofs.Parser.Unrolled
import Backtrack.Proofs.Session.Adequacy
import Backtrack.Proofs.Session.Roots

/-! # Runs of repetitions

    A repetition of what a grammar runs, in a session of its own. What it
    answers is told by the chain of answers that the grammar's own runs give
    from place to place.

    * `Grammar.Reaches.run_repetition_iff`: a run of a repetition is its chain.
    * `Grammar.Reaches.repetition_is_chain`: chains are finite, repetitions are
      their chains, and what this means where every match consumes something.
    * `Grammar.Reaches.separated_is_unrolled`: repetitions with separators, and
      what is left to compare with their unrolled form. -/

namespace Backtrack

variable {κ α : Type}

/-! ## §1. Repetitions -/

/-- What runs of the session on the input answer, from one store on. -/
def Session.Answers [DecidableEq κ] (session : Session κ α) (store : Store κ α) (input : Text)
    (place : Nat) (outcome : Outcome (Value α)) : Prop :=
  (session.run store input place).1 = .ok outcome

section Repetition

variable [DecidableEq κ] {grammar : Grammar κ α} {session repeated : Session κ α}
  {store store' : Store κ α} {input : Text} {index : Nat} {bounds : Bounds}
  {outcome : Outcome (Value α)}

theorem Grammar.Reaches.answers_eq (h : grammar.Reaches session store) :
    session.Answers store input = session.parser.AnswersAt session.rule? input := by
  funext place outcome
  exact propext h.run_eq_ok_iff

/-- There is one chain wherever the places that it comes to have answers. -/
theorem Grammar.Reaches.existsUnique_chain (h : grammar.Reaches session store) {max : Option Nat}
    (hanswers : ∀ matched, GreedyPrefix (session.Answers store input) max index matched →
      ∃ outcome, session.Answers store input (chainPlace index matched matched.length) outcome) :
    ∃! matched, GreedyChain (session.Answers store input) max index matched := by
  rw [h.answers_eq] at hanswers ⊢
  obtain ⟨matched, hchain⟩ :=
    GreedyPrefix.exists_chain hanswers fun _ _ => Parser.AnswersAt.inside
  exact ⟨matched, hchain, fun other hother =>
    hother.unique hchain fun _ _ _ => Evaluates.deterministic⟩

/-- A run of a repetition is the chain of the runs of its body: it succeeds with all that the chain
matches, or reports how many matches there are and how many there must be. -/
theorem Grammar.Reaches.run_repetition_iff (h : grammar.Reaches session store)
    (hbounds : bounds.consistent = true) (hboundary : input.isBoundary index = true)
    (h' : (grammar.around (.repetition · bounds)).Reaches repeated store') :
    (repeated.run store' input index).1 = .ok outcome ↔
      ∃ matched, GreedyChain (session.Answers store input) bounds.max index matched ∧
        if bounds.min ≤ matched.length then
          ∃ text, input.slice? index (chainPlace index matched matched.length) = some text ∧
            outcome = .success ⟨text, index, .list (valuesOf matched)⟩
        else
          outcome = .failure ⟨.parsing, index,
            s!"Expected to match {session.parser.render} at least {bounds.min} times. " ++
              s!"Actually matched {matched.length} times."⟩ := by
  obtain ⟨hparser, hrules⟩ := h.parser_around h' (h.builds.repetition hbounds)
  rw [h'.run_eq_ok_iff, hparser, hrules, evaluates_repetition_iff_chain, h.answers_eq]
  refine exists_congr fun matched => and_congr_right fun hchain => ?_
  obtain ⟨hplace, hle⟩ := hchain.isBoundary_place hboundary
  have hlength : (valuesOf matched).length = matched.length := List.length_map _
  by_cases henough : bounds.min ≤ matched.length
  · obtain ⟨text, htext, hfinish⟩ :=
      finishRounds_of_enough session.parser (hlength ▸ henough) hboundary hplace hle
    rw [if_pos henough, hfinish]
    simp only [htext, Option.some.injEq, exists_eq_left']
  · rw [if_neg henough, finishRounds_of_few session.parser (hlength ▸ henough), hlength]
    rfl

/-- Where every match consumes something, to repeat a parser so many times is to chain as many
copies of it. -/
theorem Grammar.Reaches.exactly_iff_copies (h : grammar.Reaches session store)
    (hconsumes : ∀ place success, session.Answers store input place (.success success) →
      success.text ≠ [])
    {n : Nat} {exactly chained : Session κ α} {exactlyStore chainedStore : Store κ α}
    (hexactly : (grammar.around (.repetition · ⟨n + 1, some (n + 1)⟩)).Reaches exactly exactlyStore)
    (hchained : (grammar.around fun one => Parser.sequenceAll one (List.replicate n one)).Reaches
      chained chainedStore) :
    (∀ success, (exactly.run exactlyStore input index).1 = .ok (.success success) →
      ∃ first rest, rest.length = n ∧ success.value = .list (first :: rest) ∧
        (chained.run chainedStore input index).1 =
          .ok (.success ⟨success.text, index, Value.chain first rest⟩)) ∧
    ∀ success, (chained.run chainedStore input index).1 = .ok (.success success) →
      ∃ first rest, rest.length = n ∧ success.value = Value.chain first rest ∧
        (exactly.run exactlyStore input index).1 =
          .ok (.success ⟨success.text, index, .list (first :: rest)⟩) := by
  rw [h.answers_eq] at hconsumes
  obtain ⟨hparser, hrules⟩ := h.parser_around hexactly
    (h.builds.repetition (decide_eq_true (le_refl (n + 1))))
  obtain ⟨hparser', hrules'⟩ := h.parser_around hchained (h.builds.sequenceAll h.builds n)
  -- Both succeed with the matches of a chain that is as long as it may be.
  simp only [hexactly.run_eq_ok_iff, hchained.run_eq_ok_iff, hparser, hrules, hparser', hrules',
    evaluates_exactly_iff, evaluates_copies_iff hconsumes]
  constructor
  · rintro success ⟨matched, hlength, hprefix, htext, _, hvalue⟩
    cases matched with
    | nil => cases hlength
    | cons first rest =>
      have hrest : (valuesOf rest).length = n := (List.length_map _).trans (Nat.succ.inj hlength)
      exact ⟨first.value, valuesOf rest, hrest, hvalue, first, rest, hlength, hprefix, htext,
        trivial, rfl⟩
  · rintro success ⟨first, rest, hlength, hprefix, htext, _, hvalue⟩
    have hrest : (valuesOf rest).length = n := (List.length_map _).trans (Nat.succ.inj hlength)
    exact ⟨first.value, valuesOf rest, hrest, hvalue, first :: rest, hlength, hprefix, htext,
      trivial, rfl⟩

/-- Where every match consumes something, none is left behind a repetition without a greatest
number. -/
theorem Grammar.Reaches.not_repetition_then (h : grammar.Reaches session store)
    (hconsumes : ∀ place success, session.Answers store input place (.success success) →
      success.text ≠ [])
    {followed : Session κ α} {followedStore : Store κ α}
    (hfollowed : (grammar.around fun one => .sequence (.repetition one .many) one).Reaches
      followed followedStore) (success : Success (Value α)) :
    (followed.run followedStore input index).1 ≠ .ok (.success success) := by
  intro hrun
  rw [h.answers_eq] at hconsumes
  obtain ⟨hparser, hrules⟩ := h.parser_around hfollowed
    ((h.builds.repetition rfl).sequence h.builds)
  rw [hfollowed.run_eq_ok_iff, hparser, hrules] at hrun
  exact not_evaluates_repetition_then hconsumes hrun

/-- **A repetition is the bounded greedy chain of its body.** No chain has more matches than there
are bytes left and one more, and there is one chain wherever the places that it comes to have
answers. The repetition can be built if its bounds are consistent. A run of it has an outcome just
where there is a chain: with enough matches it succeeds with the text up to the end of the chain and
all the values in order, and otherwise it fails where it started and reports both numbers.

Let every match consume something. Then to repeat a parser so many times, no more and no less, is to
chain as many copies of it: the one succeeds where the other does, with the same text and the same
values. And what is repeated without a greatest number is never followed by the same once more. -/
theorem Grammar.Reaches.repetition_is_chain (h : grammar.Reaches session store)
    (hbounds : bounds.consistent = true) (hboundary : input.isBoundary index = true) :
    (∀ matched, GreedyPrefix (session.Answers store input) bounds.max index matched →
      matched.length ≤ input.size - index + 1) ∧
    ((∀ matched, GreedyPrefix (session.Answers store input) bounds.max index matched →
        ∃ outcome, session.Answers store input (chainPlace index matched matched.length) outcome) →
      ∃! matched, GreedyChain (session.Answers store input) bounds.max index matched) ∧
    (grammar.around (.repetition · bounds)).Starts ∧
    (∀ repeated store', (grammar.around (.repetition · bounds)).Reaches repeated store' →
      ∀ outcome, (repeated.run store' input index).1 = .ok outcome ↔
        ∃ matched, GreedyChain (session.Answers store input) bounds.max index matched ∧
          if bounds.min ≤ matched.length then
            ∃ text, input.slice? index (chainPlace index matched matched.length) = some text ∧
              outcome = .success ⟨text, index, .list (valuesOf matched)⟩
          else
            outcome = .failure ⟨.parsing, index,
              s!"Expected to match {session.parser.render} at least {bounds.min} times. " ++
                s!"Actually matched {matched.length} times."⟩) ∧
    ((∀ place success, session.Answers store input place (.success success) → success.text ≠ []) →
      (∀ n, (grammar.around (.repetition · ⟨n + 1, some (n + 1)⟩)).Starts ∧
        (grammar.around fun one => Parser.sequenceAll one (List.replicate n one)).Starts ∧
        ∀ exactly exactlyStore chained chainedStore,
          (grammar.around (.repetition · ⟨n + 1, some (n + 1)⟩)).Reaches exactly exactlyStore →
          (grammar.around fun one => Parser.sequenceAll one (List.replicate n one)).Reaches
            chained chainedStore →
          (∀ success, (exactly.run exactlyStore input index).1 = .ok (.success success) →
            ∃ first rest, rest.length = n ∧ success.value = .list (first :: rest) ∧
              (chained.run chainedStore input index).1 =
                .ok (.success ⟨success.text, index, Value.chain first rest⟩)) ∧
          ∀ success, (chained.run chainedStore input index).1 = .ok (.success success) →
            ∃ first rest, rest.length = n ∧ success.value = Value.chain first rest ∧
              (exactly.run exactlyStore input index).1 =
                .ok (.success ⟨success.text, index, .list (first :: rest)⟩)) ∧
      (grammar.around fun one => .sequence (.repetition one .many) one).Starts ∧
      ∀ followed followedStore,
        (grammar.around fun one => .sequence (.repetition one .many) one).Reaches
          followed followedStore →
        ∀ success, (followed.run followedStore input index).1 ≠ .ok (.success success)) := by
  have hbuilds := h.builds
  refine ⟨fun matched hprefix => ?_, h.existsUnique_chain,
    h.starts_around (hbuilds.repetition hbounds),
    fun repeated store' h' outcome => h.run_repetition_iff hbounds hboundary h',
    fun hconsumes => ?_⟩
  · rw [h.answers_eq] at hprefix
    exact hprefix.length_le fun _ _ => Parser.AnswersAt.inside
  · refine ⟨fun n => ⟨?_, ?_, ?_⟩, ?_, ?_⟩
    · exact h.starts_around (hbuilds.repetition (decide_eq_true (le_refl (n + 1))))
    · exact h.starts_around (hbuilds.sequenceAll hbuilds n)
    · exact fun _ _ _ _ hexactly hchained => h.exactly_iff_copies hconsumes hexactly hchained
    · exact h.starts_around ((hbuilds.repetition rfl).sequence hbuilds)
    · exact fun _ _ hfollowed => h.not_repetition_then hconsumes hfollowed

end Repetition

/-- The mark alone. -/
def mark : Grammar Unit Unit where
  rules := []
  root := .literal ['x']

/-- The session that the mark starts with. -/
def markSession : Session Unit Unit where
  rules := []
  shared := []
  root := .literal ['x']

/-- A session of the mark with another root. -/
def markAround (root : BuiltParser Unit Unit) : Session Unit Unit where
  rules := []
  shared := []
  root := root

/-- Behind the first of three marks there are two in a row, as a repetition and as two copies. -/
theorem repetition_is_chain_marks :
    mark.Reaches markSession ⟨0, [], []⟩ ∧ (⟨2, some 2⟩ : Bounds).consistent = true ∧
      Text.isBoundary ['x', 'x', 'x'] 1 = true ∧
      (∀ place success, markSession.Answers ⟨0, [], []⟩ ['x', 'x', 'x'] place (.success success) →
        success.text ≠ []) ∧
      ((markAround (.repetition (.literal ['x']) ⟨2, some 2⟩)).run ⟨0, [], []⟩
        ['x', 'x', 'x'] 1).1 = .ok (.success ⟨['x', 'x'], 1, .list [.text ['x'], .text ['x']]⟩) ∧
      (∃ matched, GreedyChain (markSession.Answers ⟨0, [], []⟩ ['x', 'x', 'x']) (some 2) 1 matched ∧
        matched.length ≤ 3) ∧
      ∃ first rest, rest.length = 1 ∧
        ((markAround (.sequence (.literal ['x']) (.literal ['x']))).run ⟨0, [], []⟩
          ['x', 'x', 'x'] 1).1 = .ok (.success ⟨['x', 'x'], 1, Value.chain first rest⟩) := by
  have hreach : mark.Reaches markSession ⟨0, [], []⟩ := .start rfl
  have hbounds : (⟨2, some 2⟩ : Bounds).consistent = true := rfl
  have hboundary : Text.isBoundary ['x', 'x', 'x'] 1 = true := rfl
  have hexactly : (mark.around (.repetition · ⟨2, some 2⟩)).Reaches
      (markAround (.repetition (.literal ['x']) ⟨2, some 2⟩)) ⟨0, [], []⟩ := .start rfl
  have hchained : (mark.around fun one => Parser.sequenceAll one (List.replicate 1 one)).Reaches
      (markAround (.sequence (.literal ['x']) (.literal ['x']))) ⟨0, [], []⟩ := .start rfl
  have hrun : ((markAround (.repetition (.literal ['x']) ⟨2, some 2⟩)).run ⟨0, [], []⟩
      ['x', 'x', 'x'] 1).1 = .ok (.success ⟨['x', 'x'], 1, .list [.text ['x'], .text ['x']]⟩) := rfl
  have hconsumes : ∀ place success,
      markSession.Answers ⟨0, [], []⟩ ['x', 'x', 'x'] place (.success success) →
        success.text ≠ [] := by
    intro place success h
    have hmatch : matchLiteral ['x', 'x', 'x'] ['x'] place = .success success := Except.ok.inj h
    unfold matchLiteral at hmatch
    split at hmatch
    · cases hmatch
      exact List.cons_ne_nil 'x' []
    · cases hmatch
  obtain ⟨hfinite, _, _, hruns, hcopies⟩ := hreach.repetition_is_chain hbounds hboundary
  obtain ⟨matched, hchain, _⟩ := (hruns _ _ hexactly _).1 hrun
  obtain ⟨first, rest, hlength, _, hcopied⟩ :=
    (((hcopies hconsumes).1 1).2.2 _ _ _ _ hexactly hchained).1 _ hrun
  exact ⟨hreach, hbounds, hboundary, hconsumes, hrun,
    ⟨matched, hchain, hfinite matched hchain.toGreedyPrefix⟩, first, rest, hlength, hcopied⟩

/-! ## §2. Repetitions with separators -/

section Separated

variable [DecidableEq κ] {grammar : Grammar κ α} {one gap : Session κ α}
  {oneStore gapStore : Store κ α} {separator : Template κ α} {bounds : Bounds} {input : Text}
  {index : Nat}

/-- **A separated repetition against its unrolled form**, which is the first round and behind it a
repetition of the others, a separator in front of each. Both can be built if the bounds are
consistent. Unless the body matches nothing where they start, the one has an outcome where the other
has. It succeeds where the other does, and where the body fails and no round is asked for. The
values are the same but for those of the separators, and so is the end, unless there may be one more
round and its separator matches with no body behind it: that separator is consumed. Where the body
matches nothing there is this one round, whatever the separator would match. -/
theorem Grammar.Reaches.separated_is_unrolled (h : grammar.Reaches one oneStore)
    (hgap : (grammar.around fun _ => separator).Reaches gap gapStore)
    (hbounds : bounds.consistent = true) (hmax : bounds.max ≠ some 0)
    (hboundary : input.isBoundary index = true) :
    (grammar.around (.separated · separator bounds)).Starts ∧
    (grammar.around (Parser.unrolled · separator bounds)).Starts ∧
    ∀ whole wholeStore unrolled unrolledStore,
      (grammar.around (.separated · separator bounds)).Reaches whole wholeStore →
      (grammar.around (Parser.unrolled · separator bounds)).Reaches unrolled unrolledStore →
      ((∀ first, one.Answers oneStore input index (.success first) → first.text ≠ []) →
        ((∃ outcome, (whole.run wholeStore input index).1 = .ok outcome) ↔
          ∃ outcome, (unrolled.run unrolledStore input index).1 = .ok outcome) ∧
        ((∃ success, (whole.run wholeStore input index).1 = .ok (.success success)) ↔
          (∃ success, (unrolled.run unrolledStore input index).1 = .ok (.success success)) ∨
            bounds.min = 0 ∧ ∃ failure, one.Answers oneStore input index (.failure failure)) ∧
        ∀ success, (whole.run wholeStore input index).1 = .ok (.success success) →
          ((∃ failure, one.Answers oneStore input index (.failure failure)) →
            success = ⟨[], index, .list []⟩) ∧
          ∀ success', (unrolled.run unrolledStore input index).1 = .ok (.success success') →
            RollsUp (one.Answers oneStore input) (gap.Answers gapStore input) bounds success'
              success) ∧
      ∀ first, one.Answers oneStore input index (.success first) → first.text = [] →
        (whole.run wholeStore input index).1 = .ok (
          if bounds.min ≤ 1 then .success ⟨[], index, .list [first.value]⟩
          else .failure (.tooFew one.parser.render bounds.min 1 index)) := by
  have hbody := h.builds
  obtain ⟨hshared, hnames⟩ := h.shared_around hgap
  have hseparator : Builds one.shared separator gap.parser := by
    rw [← hshared]
    exact hgap.builds
  have hwhole : Builds one.shared (.separated grammar.root separator bounds) _ :=
    hbody.separated hseparator hbounds
  have hunrolled : Builds one.shared (Parser.unrolled grammar.root separator bounds) _ :=
    hbody.sequence ((hseparator.sequence hbody).repetition (Bounds.behindFirst_consistent hbounds))
  refine ⟨h.starts_around hwhole, h.starts_around hunrolled, ?_⟩
  intro whole wholeStore unrolled unrolledStore h₁ h₂
  obtain ⟨hparser₁, hrules₁⟩ := h.parser_around h₁ hwhole
  obtain ⟨hparser₂, hrules₂⟩ := h.parser_around h₂ hunrolled
  have hrun₁ (outcome : Outcome (Value α)) : (whole.run wholeStore input index).1 = .ok outcome ↔
      (Parser.separated one.parser gap.parser bounds).AnswersAt one.rule? input index outcome := by
    rw [h₁.run_eq_ok_iff, hparser₁, hrules₁]
    rfl
  have hrun₂ (outcome : Outcome (Value α)) :
      (unrolled.run unrolledStore input index).1 = .ok outcome ↔
        (Parser.unrolled one.parser gap.parser bounds).AnswersAt one.rule? input index outcome := by
    rw [h₂.run_eq_ok_iff, hparser₂, hrules₂]
    rfl
  have hanswers : gap.Answers gapStore input = gap.parser.AnswersAt one.rule? input := by
    rw [hgap.answers_eq, hnames]
  simp only [h.answers_eq, hanswers, hrun₁, hrun₂]
  refine ⟨fun hconsumes => ⟨exists_separated_iff_exists_unrolled hmax hconsumes,
    exists_separated_success_iff hmax hconsumes hboundary, fun success hsuccess =>
      ⟨fun ⟨_, hfails⟩ => success_eq_of_fails hmax hboundary hfails hsuccess,
        fun success' hsuccess' => rollsUp_of_successes hmax hconsumes hsuccess hsuccess'⟩⟩,
    fun first hfirst hnothing => evaluates_separated_of_still hmax hfirst hnothing⟩

end Separated

/-- A comma behind the last mark is consumed where there may be another one and none follows. -/
theorem separated_is_unrolled_marks :
    mark.Reaches markSession ⟨0, [], []⟩ ∧
      (mark.around fun _ => .literal [',']).Reaches (markAround (.literal [','])) ⟨0, [], []⟩ ∧
      (⟨1, some 3⟩ : Bounds).consistent = true ∧ (some 3 : Option Nat) ≠ some 0 ∧
      Text.isBoundary ['x', ',', 'x', ',', '?'] 0 = true ∧
      ∃ success success',
        ((markAround (.separated (.literal ['x']) (.literal [',']) ⟨1, some 3⟩)).run ⟨0, [], []⟩
          ['x', ',', 'x', ',', '?'] 0).1 = .ok (.success success) ∧
        ((markAround (Parser.unrolled (.literal ['x']) (.literal [',']) ⟨1, some 3⟩)).run
          ⟨0, [], []⟩ ['x', ',', 'x', ',', '?'] 0).1 = .ok (.success success') ∧
        success.stop = 4 ∧ success'.stop = 3 ∧
        RollsUp (markSession.Answers ⟨0, [], []⟩ ['x', ',', 'x', ',', '?'])
          ((markAround (.literal [','])).Answers ⟨0, [], []⟩ ['x', ',', 'x', ',', '?']) ⟨1, some 3⟩
          success' success := by
  have hreach : mark.Reaches markSession ⟨0, [], []⟩ := .start rfl
  have hgap : (mark.around fun _ => .literal [',']).Reaches (markAround (.literal [',']))
    ⟨0, [], []⟩ := .start rfl
  have hbounds : (⟨1, some 3⟩ : Bounds).consistent = true := rfl
  have hmax : (some 3 : Option Nat) ≠ some 0 := by decide
  have hboundary : Text.isBoundary ['x', ',', 'x', ',', '?'] 0 = true := rfl
  have hwhole : (mark.around (.separated · (.literal [',']) ⟨1, some 3⟩)).Reaches
    (markAround (.separated (.literal ['x']) (.literal [',']) ⟨1, some 3⟩)) ⟨0, [], []⟩ :=
      .start rfl
  have hunrolled : (mark.around (Parser.unrolled · (.literal [',']) ⟨1, some 3⟩)).Reaches
    (markAround (Parser.unrolled (.literal ['x']) (.literal [',']) ⟨1, some 3⟩)) ⟨0, [], []⟩ :=
      .start rfl
  have hconsumes : ∀ first, markSession.Answers ⟨0, [], []⟩ ['x', ',', 'x', ',', '?'] 0
      (.success first) → first.text ≠ [] := by
    intro first hfirst
    cases hfirst
    exact List.cons_ne_nil 'x' []
  obtain ⟨_, _, hforms⟩ := hreach.separated_is_unrolled hgap hbounds hmax hboundary
  obtain ⟨_, _, hsuccesses⟩ := (hforms _ _ _ _ hwhole hunrolled).1 hconsumes
  exact ⟨hreach, hgap, hbounds, hmax, hboundary, _, _, rfl, rfl, rfl, rfl,
    (hsuccesses _ rfl).2 _ rfl⟩

end Backtrack
