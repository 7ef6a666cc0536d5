import Backtrack.Proofs.Parser.GreedyChain

/-! # Separated repetitions, unrolled

    A repetition with separators is its first round, and behind it a plain
    repetition of rounds with the separator in front. The two are not the same
    parser. The first round is on its own as far as progress is concerned, a
    separator that no round follows is consumed all the same, and no separator
    is tried behind the last round that may be.

    * `GreedyChain.exists_separatedLoop`: behind the first round, the loop goes
      through the chain of the unrolled rounds and comes to its end, or to the
      end of one more separator.
    * `exists_separated_and_unrolled`: what the two parsers make of the same
      chain.
    * `exists_separated_success_iff`, `rollsUp_of_successes`: where the two
      succeed, and with what. -/

namespace Backtrack

variable {ρ α β : Type}

/-! ## §1. The last separator -/

section Ends

variable {body separator : Nat → Outcome β → Prop} {place stop : Nat} {gap : Success β}
  {more : Prop}

/-- A separator at this place that no body follows. -/
def Dangles (body separator : Nat → Outcome β → Prop) (place : Nat) (gap : Success β) : Prop :=
  separator place (.success gap) ∧ ∃ failure, body gap.stop (.failure failure)

/-- Where rounds end that have come to this place: behind one more separator, if there may be
another round and none follows, and otherwise here. -/
structure TrailsTo (body separator : Nat → Outcome β → Prop) (more : Prop) (place stop : Nat) :
    Prop where
  behind : ∀ gap, more → Dangles body separator place gap → stop = gap.stop
  here : (¬ ∃ gap, more ∧ Dangles body separator place gap) → stop = place

/-- One more separator is the only one. -/
theorem Dangles.trailsTo (h : Dangles body separator place gap) (hmore : more)
    (honce : ∀ other, separator place (.success other) → other = gap) :
    TrailsTo body separator more place gap.stop where
  behind other _ hother := by rw [honce other hother.1]
  here hnone := absurd ⟨gap, hmore, h⟩ hnone

theorem trailsTo_here (h : ¬ ∃ gap, more ∧ Dangles body separator place gap) :
    TrailsTo body separator more place place where
  behind gap hmore hgap := absurd ⟨gap, hmore, hgap⟩ h
  here _ := rfl

/-- The value of a round: that of its separator, and that of the body. -/
def Value.ofRound (round : Value α × Value α) : Value α :=
  .pair round.1 round.2

/-- What a separated repetition makes of what its unrolled form matches: the first value and those
of the bodies behind it, with the same end or that of one more separator. -/
def RollsUp (body separator : Nat → Outcome (Value α) → Prop) (bounds : Bounds)
    (unrolled whole : Success (Value α)) : Prop :=
  ∃ (first : Value α) (rounds : List (Value α × Value α)),
    unrolled.value = .pair first (.list (rounds.map Value.ofRound)) ∧
      whole.value = .list (first :: rounds.map Prod.snd) ∧
      TrailsTo body separator (bounds.admits (rounds.length + 1) = true) unrolled.stop whole.stop

end Ends

section Rounds

variable {rules : ρ → Option (Parser ρ α)} {input : Text} {first next body separator : Parser ρ α}
  {bounds : Bounds} {index start position place : Nat} {values : List (Value α)}
  {outcome : Outcome (Value α)} {success : Success (Value α)} {matched : List (Success (Value α))}

/-! ## §2. Loops behind the first round -/

/-- The end of rounds is a place of the input, and not in front of them. -/
theorem TrailsTo.isBoundary {more : Prop} {stop : Nat}
    (h : TrailsTo (body.AnswersAt rules input) (separator.AnswersAt rules input) more place stop)
    (hplace : input.isBoundary place = true) : input.isBoundary stop = true ∧ place ≤ stop := by
  by_cases hdangles : ∃ gap, more ∧
      Dangles (body.AnswersAt rules input) (separator.AnswersAt rules input) place gap
  · obtain ⟨gap, hmore, hgap⟩ := hdangles
    rw [h.behind gap hmore hgap]
    exact ⟨Evaluates.isBoundary_stop hgap.1, hgap.1.inside.1⟩
  · rw [h.here hdangles]
    exact ⟨hplace, le_refl place⟩

/-- Where no round follows, the loop is over: here, or behind one more separator. -/
theorem GreedyChain.exists_loopEnd
    (h : GreedyChain ((Parser.sequence separator body).AnswersAt rules input)
      (bounds.max.map (· - values.length)) position []) (hne : values ≠ []) :
    ∃ stop, TrailsTo (body.AnswersAt rules input) (separator.AnswersAt rules input)
        (bounds.admits values.length = true) position stop ∧
      Evaluates rules input ⊤ (.loop body (some separator) bounds start position values)
        (endLoop input body bounds start stop values) := by
  cases hadmits : bounds.admits values.length with
  | false =>
    -- With the greatest number of rounds no separator is tried.
    refine ⟨position, trailsTo_here ?_, .full hadmits⟩
    rintro ⟨gap, hmore, _⟩
    cases hmore
  | true =>
    rcases greedyChain_nil_iff.1 h with hfull | ⟨failure, hfails⟩
    · rw [admits_eq_false_iff.2 hfull] at hadmits
      cases hadmits
    rcases answersAt_sequence_failure_iff.1 hfails with hgap | ⟨gap, hgap, hbody⟩
    · refine ⟨position, trailsTo_here ?_, .separatorFails hadmits hne hgap⟩
      rintro ⟨gap, _, hother, _⟩
      cases Evaluates.deterministic hgap hother
    · have hdangles : Dangles (body.AnswersAt rules input) (separator.AnswersAt rules input)
          position gap := ⟨hgap, failure, hbody⟩
      have honce (other : Success (Value α))
          (hother : separator.AnswersAt rules input position (.success other)) : other = gap :=
        Outcome.success.inj (hother.deterministic hgap)
      exact ⟨gap.stop, hdangles.trailsTo rfl honce,
        .separatorMatches hadmits hne hgap (.roundFails hbody)⟩

/-- Behind the first round, a loop goes through the chain of separators and bodies. -/
theorem GreedyChain.exists_separatedLoop
    (h : GreedyChain ((Parser.sequence separator body).AnswersAt rules input)
      (bounds.max.map (· - values.length)) position matched) (hne : values ≠ []) :
    ∃ (pairs : List (Value α × Value α)) (stop : Nat),
      valuesOf matched = pairs.map Value.ofRound ∧
      TrailsTo (body.AnswersAt rules input) (separator.AnswersAt rules input)
        (bounds.admits (values.length + matched.length) = true)
        (chainPlace position matched matched.length) stop ∧
      Evaluates rules input ⊤ (.loop body (some separator) bounds start position values)
        (endLoop input body bounds start stop ((pairs.map Prod.snd).reverse ++ values)) := by
  induction matched generalizing position values with
  | nil =>
    obtain ⟨stop, htrails, hloop⟩ := h.exists_loopEnd hne
    exact ⟨[], stop, rfl, htrails, hloop⟩
  | cons round rest ih =>
    obtain ⟨hround, hmax, hrest⟩ := greedyChain_cons_iff.1 h
    have hadmits : bounds.admits values.length = true := admits_of_map_ne hmax
    obtain ⟨gap, back, hgap, hback, rfl, hstop⟩ := answersAt_sequence_success_iff.1 hround
    rw [hstop] at hrest
    rcases hrest with ⟨hstill, rfl⟩ | ⟨hmoves, hrest⟩
    · -- The last round comes no further, and its own separator is followed by a body.
      refine ⟨[(gap.value, back.value)], position, rfl, ?_,
        .separatorMatches hadmits hne hgap (.roundStays hback hstill)⟩
      have hplace : chainPlace position
          [(⟨gap.text ++ back.text, position, .pair gap.value back.value⟩ : Success (Value α))] 1 =
            position := hstop.trans hstill
      rw [List.length_singleton, hplace]
      refine trailsTo_here ?_
      rintro ⟨other, _, hother, failure, hfails⟩
      cases Evaluates.deterministic hgap hother
      cases Evaluates.deterministic hback hfails
    · have hrest : GreedyChain ((Parser.sequence separator body).AnswersAt rules input)
          (bounds.max.map (· - (back.value :: values).length)) back.stop rest := by
        rw [map_sub_succ] at hrest
        exact hrest
      obtain ⟨pairs, stop, hvalues, htrails, hloop⟩ := ih hrest (List.cons_ne_nil _ _)
      refine ⟨(gap.value, back.value) :: pairs, stop, ?_, ?_, ?_⟩
      · rw [List.map_cons, ← hvalues]
        rfl
      · have hplace : chainPlace position (⟨gap.text ++ back.text, position,
            .pair gap.value back.value⟩ :: rest) (rest.length + 1) =
              chainPlace back.stop rest rest.length := by
          rw [← hstop]
          rfl
        have hlength : (back.value :: values).length + rest.length =
            values.length + (rest.length + 1) := by
          rw [List.length_cons]
          omega
        rw [hlength] at htrails
        rw [List.length_cons, hplace]
        exact htrails
      · rw [List.map_cons, List.reverse_cons, List.append_assoc]
        exact .separatorMatches hadmits hne hgap (.roundMoves hback hmoves hloop)

/-- Behind the first round, every loop goes through a chain of separators and bodies. -/
theorem Evaluates.exists_roundChain
    (h : Evaluates rules input ⊤ (.loop body (some separator) bounds start position values) outcome)
    (hne : values ≠ []) :
    ∃ matched, GreedyChain ((Parser.sequence separator body).AnswersAt rules input)
      (bounds.max.map (· - values.length)) position matched := by
  refine exists_chain_of_going (fun place count => ∃ values outcome,
    values ≠ [] ∧ values.length = count ∧
      Evaluates rules input ⊤ (.loop body (some separator) bounds start place values) outcome) ?_
    (fun _ _ => Parser.AnswersAt.inside) ⟨values, outcome, hne, rfl, h⟩
  rintro place _ ⟨values, outcome, hne, rfl, h⟩ hopen
  rcases (evaluates_loop_separated_iff (admits_of_map_ne hopen) hne).1 h with
    ⟨failure, hgap, _⟩ | ⟨gap, hgap, hround⟩
  · exact ⟨_, answersAt_sequence_failure_iff.2 (.inl hgap), nofun⟩
  rcases evaluates_round_iff.1 hround with ⟨failure, hbody, _⟩ | ⟨back, hback, hafter⟩
  · exact ⟨_, answersAt_sequence_failure_iff.2 (.inr ⟨gap, hgap, hbody⟩), nofun⟩
  · have hstop : place + (gap.text ++ back.text).size = back.stop :=
      Text.add_size_of_slice? (hgap.slice?_of_sequence hback)
    refine ⟨_, answersAt_sequence_success_iff.2 ⟨gap, back, hgap, hback, rfl, hstop⟩, ?_⟩
    rintro success hsuccess hmoves
    cases hsuccess
    have hmoves : back.stop ≠ place := fun h => hmoves (hstop.trans h)
    rcases hafter with ⟨hstill, _⟩ | ⟨_, hloop⟩
    · exact absurd hstill hmoves
    · refine ⟨back.value :: values, outcome, List.cons_ne_nil _ _, rfl, ?_⟩
      show Evaluates rules input ⊤ (.loop body (some separator) bounds start
        (place + (gap.text ++ back.text).size) (back.value :: values)) outcome
      rw [hstop]
      exact hloop

/-! ## §3. The two forms -/

/-- How often a round may and must follow the first one. -/
def Bounds.behindFirst (bounds : Bounds) : Bounds :=
  ⟨Max.max bounds.min 1 - 1, bounds.max.map (· - 1)⟩

theorem Bounds.behindFirst_consistent (h : bounds.consistent = true) :
    bounds.behindFirst.consistent = true := by
  unfold Bounds.consistent at h
  unfold Bounds.consistent Bounds.behindFirst
  cases hmax : bounds.max with
  | none => rfl
  | some most =>
    rw [hmax, Option.all_some, decide_eq_true_eq] at h
    rw [Option.map_some, Option.all_some, decide_eq_true_eq]
    show Max.max bounds.min 1 - 1 ≤ most - 1
    omega

/-- A first round with rounds behind it, a separator in front of each. -/
def Parser.unrolled (body separator : Parser ρ α) (bounds : Bounds) : Parser ρ α :=
  .sequence body (.repetition (.sequence separator body) bounds.behindFirst)

theorem admits_zero (h : bounds.max ≠ some 0) : bounds.admits 0 = true := by
  rw [← Bool.not_eq_false, admits_eq_false_iff]
  intro hnone
  apply h
  cases hmax : bounds.max with
  | none =>
    rw [hmax] at hnone
    cases hnone
  | some most =>
    rw [hmax] at hnone
    exact hnone

/-- A separated repetition that may match tries its body first, and stops there where that matches
nothing. -/
theorem evaluates_separated_iff_first (hmax : bounds.max ≠ some 0) :
    Evaluates rules input ⊤ (.parse (.separated body separator bounds) index) outcome ↔
      (∃ failure, body.AnswersAt rules input index (.failure failure) ∧
        outcome = finishRounds input body bounds index ⟨[], index⟩) ∨
      ∃ first, body.AnswersAt rules input index (.success first) ∧
        (first.stop = index ∧
            outcome = finishRounds input body bounds index ⟨[first.value], index⟩ ∨
          first.stop ≠ index ∧
            Evaluates rules input ⊤
              (.loop body (some separator) bounds index first.stop [first.value]) outcome) := by
  rw [evaluates_separated_iff, evaluates_loop_unseparated_iff (admits_zero hmax) (.inr rfl),
    evaluates_round_iff]
  rfl

/-- The unrolled form is its first round and the chain behind it. -/
theorem evaluates_unrolled_iff :
    Evaluates rules input ⊤ (.parse (Parser.unrolled body separator bounds) index) outcome ↔
      (∃ failure, body.AnswersAt rules input index (.failure failure) ∧
        outcome = .failure failure) ∨
      ∃ first matched, body.AnswersAt rules input index (.success first) ∧
        GreedyChain ((Parser.sequence separator body).AnswersAt rules input)
          (bounds.max.map (· - 1)) first.stop matched ∧
        outcome = joinOutcome input index first
          (finishRounds input (.sequence separator body) bounds.behindFirst first.stop
            ⟨valuesOf matched, chainPlace first.stop matched matched.length⟩) := by
  unfold Parser.unrolled
  rw [evaluates_sequence_iff]
  refine or_congr Iff.rfl (exists_congr fun first => ?_)
  constructor
  · rintro ⟨hfirst, back, hback, rfl⟩
    obtain ⟨matched, hchain, rfl⟩ := evaluates_repetition_iff_chain.1 hback
    exact ⟨matched, hfirst, hchain, rfl⟩
  · rintro ⟨matched, hfirst, hchain, rfl⟩
    exact ⟨hfirst, _, evaluates_repetition_iff_chain.2 ⟨matched, hchain, rfl⟩, rfl⟩

/-- Behind a first round that comes further, both forms go through one chain: both have an outcome
where there is one, and both succeed or both fail. -/
theorem GreedyChain.exists_outcomes {first : Success (Value α)} (hmax : bounds.max ≠ some 0)
    (hfirst : body.AnswersAt rules input index (.success first)) (hmoves : first.stop ≠ index)
    (hchain : GreedyChain ((Parser.sequence separator body).AnswersAt rules input)
      (bounds.max.map (· - 1)) first.stop matched) :
    ∃ whole unrolled,
      Evaluates rules input ⊤ (.parse (.separated body separator bounds) index) whole ∧
      Evaluates rules input ⊤ (.parse (Parser.unrolled body separator bounds) index) unrolled ∧
      ((∃ failure failure', whole = .failure failure ∧ unrolled = .failure failure') ∨
        ∃ success success', whole = .success success ∧ unrolled = .success success' ∧
          RollsUp (body.AnswersAt rules input) (separator.AnswersAt rules input) bounds success'
            success) := by
  have hvalue : bounds.max.map (· - 1) = bounds.max.map (· - [first.value].length) := rfl
  rw [hvalue] at hchain
  obtain ⟨pairs, stop, hvalues, htrails, hloop⟩ :=
    hchain.exists_separatedLoop (List.cons_ne_nil _ _)
  refine ⟨_, _, (evaluates_separated_iff_first hmax).2 (.inr ⟨first, hfirst, .inr ⟨hmoves, hloop⟩⟩),
    evaluates_unrolled_iff.2 (.inr ⟨first, matched, hfirst, hchain, rfl⟩), ?_⟩
  have hlength : (valuesOf matched).length = matched.length := List.length_map _
  have hpairs : pairs.length = matched.length := by
    rw [← hlength, hvalues, List.length_map]
  obtain ⟨hplace, hle⟩ := hchain.isBoundary_place (Evaluates.isBoundary_stop hfirst)
  obtain ⟨hend, hbehind⟩ := htrails.isBoundary hplace
  have hstart : input.isBoundary index = true := Evaluates.isBoundary_start hfirst
  have hinside := hfirst.inside
  -- The least numbers of the two forms differ by the first round.
  have hcount : (first.value :: pairs.map Prod.snd).length = matched.length + 1 := by
    rw [List.length_cons, List.length_map, hpairs]
  have hleast : bounds.behindFirst.min ≤ matched.length ↔ bounds.min ≤ matched.length + 1 := by
    show Max.max bounds.min 1 - 1 ≤ matched.length ↔ _
    omega
  have hwhole :
      endLoop input body bounds index stop ((pairs.map Prod.snd).reverse ++ [first.value]) =
        finishRounds input body bounds index ⟨first.value :: pairs.map Prod.snd, stop⟩ := by
    rw [endLoop, List.reverse_append, List.reverse_reverse]
    rfl
  rw [hwhole]
  by_cases henough : bounds.min ≤ matched.length + 1
  · obtain ⟨text, htext, hfinish⟩ := finishRounds_of_enough body (hcount ▸ henough) hstart hend
      ((hinside.1.trans hle).trans hbehind)
    obtain ⟨rest, hrest, hfinish'⟩ := finishRounds_of_enough (.sequence separator body)
      (hlength ▸ hleast.2 henough) (Evaluates.isBoundary_stop hfirst) hplace hle
    have hboth : input.slice? index (chainPlace first.stop matched matched.length) =
        some (first.text ++ rest) := Text.slice?_append (Evaluates.isSlice hfirst).2 hrest
    have hstop' : first.stop + rest.size = chainPlace first.stop matched matched.length :=
      Text.add_size_of_slice? hrest
    rw [← hstop'] at hboth
    rw [hfinish, hfinish', joinOutcome_of_slice hboth]
    refine .inr ⟨_, _, rfl, rfl, first.value, pairs, by rw [hvalues], rfl, ?_⟩
    have hstop : index + text.size = stop := Text.add_size_of_slice? htext
    have hplace' : index + (first.text ++ rest).size = first.stop + rest.size :=
      Text.add_size_of_slice? hboth
    show TrailsTo _ _ _ (index + (first.text ++ rest).size) (index + text.size)
    rw [hstop, hplace', hstop', hpairs, Nat.add_comm]
    exact htrails
  · rw [finishRounds_of_few body (hcount ▸ henough),
      finishRounds_of_few (.sequence separator body) (hlength ▸ fun h => henough (hleast.1 h))]
    exact .inl ⟨_, _, rfl, rfl⟩

/-- Where one of the two forms has an outcome, so has the other, unless the body matches nothing. If
the body fails there are no rounds, and otherwise both succeed or both fail. -/
theorem exists_separated_and_unrolled (hmax : bounds.max ≠ some 0)
    (hconsumes : ∀ first, body.AnswersAt rules input index (.success first) → first.text ≠ [])
    (h : (∃ whole, (Parser.separated body separator bounds).AnswersAt rules input index whole) ∨
      ∃ unrolled, (Parser.unrolled body separator bounds).AnswersAt rules input index unrolled) :
    ∃ whole unrolled,
      (Parser.separated body separator bounds).AnswersAt rules input index whole ∧
      (Parser.unrolled body separator bounds).AnswersAt rules input index unrolled ∧
      ((∃ failure failure', body.AnswersAt rules input index (.failure failure) ∧
          whole = finishRounds input body bounds index ⟨[], index⟩ ∧
          unrolled = .failure failure') ∨
        ∃ first, body.AnswersAt rules input index (.success first) ∧
          ((∃ failure failure', whole = .failure failure ∧ unrolled = .failure failure') ∨
            ∃ success success', whole = .success success ∧ unrolled = .success success' ∧
              RollsUp (body.AnswersAt rules input) (separator.AnswersAt rules input) bounds success'
                success)) := by
  have moves {first : Success (Value α)}
      (hfirst : body.AnswersAt rules input index (.success first)) : first.stop ≠ index :=
    fun hstop => hconsumes first hfirst (Evaluates.text_eq_nil hfirst hstop)
  -- Either form shows what the body does, and the rounds behind it if there are any.
  have hbody : (∃ failure, body.AnswersAt rules input index (.failure failure)) ∨
      ∃ first matched, body.AnswersAt rules input index (.success first) ∧
        GreedyChain ((Parser.sequence separator body).AnswersAt rules input)
          (bounds.max.map (· - 1)) first.stop matched := by
    rcases h with ⟨whole, hwhole⟩ | ⟨unrolled, hunrolled⟩
    · rcases (evaluates_separated_iff_first hmax).1 hwhole with
        ⟨failure, hfails, _⟩ | ⟨first, hfirst, ⟨hstop, _⟩ | ⟨_, hloop⟩⟩
      · exact .inl ⟨failure, hfails⟩
      · exact absurd hstop (moves hfirst)
      · obtain ⟨matched, hchain⟩ := hloop.exists_roundChain (List.cons_ne_nil _ _)
        exact .inr ⟨first, matched, hfirst, hchain⟩
    · rcases evaluates_unrolled_iff.1 hunrolled with
        ⟨failure, hfails, _⟩ | ⟨first, matched, hfirst, hchain, _⟩
      · exact .inl ⟨failure, hfails⟩
      · exact .inr ⟨first, matched, hfirst, hchain⟩
  rcases hbody with ⟨failure, hfails⟩ | ⟨first, matched, hfirst, hchain⟩
  · exact ⟨_, _, (evaluates_separated_iff_first hmax).2 (.inl ⟨failure, hfails, rfl⟩),
      evaluates_unrolled_iff.2 (.inl ⟨failure, hfails, rfl⟩),
      .inl ⟨failure, failure, hfails, rfl, rfl⟩⟩
  · obtain ⟨whole, unrolled, hwhole, hunrolled, hboth⟩ :=
      hchain.exists_outcomes hmax hfirst (moves hfirst)
    exact ⟨whole, unrolled, hwhole, hunrolled, .inr ⟨first, hfirst, hboth⟩⟩

/-- Without any rounds, a repetition succeeds where none is asked for. -/
theorem finishRounds_nil (hboundary : input.isBoundary index = true) :
    finishRounds input body bounds index ⟨[], index⟩ =
      if bounds.min = 0 then .success ⟨[], index, .list []⟩
      else .failure (.tooFew body.render bounds.min 0 index) := by
  by_cases hmin : bounds.min = 0
  · simp only [finishRounds, hmin, le_refl, List.length_nil, if_true, Text.slice?_self hboundary]
  · have hfew : ¬ bounds.min ≤ 0 := by omega
    simp only [finishRounds, hmin, hfew, List.length_nil, if_false]

section Alike

variable (hmax : bounds.max ≠ some 0)
  (hconsumes : ∀ first, body.AnswersAt rules input index (.success first) → first.text ≠ [])

include hmax

/-- Where the body fails, there are no rounds. -/
theorem separated_answersAt_of_fails {failure : Failure}
    (hfails : body.AnswersAt rules input index (.failure failure)) :
    (Parser.separated body separator bounds).AnswersAt rules input index
      (finishRounds input body bounds index ⟨[], index⟩) :=
  (evaluates_separated_iff_first hmax).2 (.inl ⟨failure, hfails, rfl⟩)

/-- Where the body fails, all that can be matched is nothing. -/
theorem success_eq_of_fails (hboundary : input.isBoundary index = true) {failure : Failure}
    {success : Success (Value α)} (hfails : body.AnswersAt rules input index (.failure failure))
    (hsuccess : (Parser.separated body separator bounds).AnswersAt rules input index
      (.success success)) : success = ⟨[], index, .list []⟩ := by
  have hempty := Evaluates.deterministic hsuccess (separated_answersAt_of_fails hmax hfails)
  rw [finishRounds_nil hboundary] at hempty
  split at hempty
  · exact Outcome.success.inj hempty
  · cases hempty

include hconsumes

/-- The one form has an outcome where the other has. -/
theorem exists_separated_iff_exists_unrolled :
    (∃ whole, (Parser.separated body separator bounds).AnswersAt rules input index whole) ↔
      ∃ unrolled, (Parser.unrolled body separator bounds).AnswersAt rules input index unrolled := by
  constructor
  · intro h
    obtain ⟨_, unrolled, _, hunrolled, _⟩ := exists_separated_and_unrolled hmax hconsumes (.inl h)
    exact ⟨unrolled, hunrolled⟩
  · intro h
    obtain ⟨whole, _, hwhole, _, _⟩ := exists_separated_and_unrolled hmax hconsumes (.inr h)
    exact ⟨whole, hwhole⟩

/-- The separated form succeeds where the unrolled one does, and where there is nothing to match and
nothing is asked for. -/
theorem exists_separated_success_iff (hboundary : input.isBoundary index = true) :
    (∃ success,
        (Parser.separated body separator bounds).AnswersAt rules input index (.success success)) ↔
      (∃ success,
        (Parser.unrolled body separator bounds).AnswersAt rules input index (.success success)) ∨
        bounds.min = 0 ∧ ∃ failure, body.AnswersAt rules input index (.failure failure) := by
  constructor
  · rintro ⟨success, hsuccess⟩
    obtain ⟨_, _, hwhole, hunrolled, hboth⟩ :=
      exists_separated_and_unrolled hmax hconsumes (.inl ⟨_, hsuccess⟩)
    cases Evaluates.deterministic hsuccess hwhole
    rcases hboth with
      ⟨failure, _, hfails, hfinish, _⟩ | ⟨_, _, ⟨_, _, hfailure, _⟩ | ⟨_, other, _, rfl, _⟩⟩
    · rw [finishRounds_nil hboundary] at hfinish
      by_cases hmin : bounds.min = 0
      · exact .inr ⟨hmin, failure, hfails⟩
      · rw [if_neg hmin] at hfinish
        cases hfinish
    · cases hfailure
    · exact .inl ⟨other, hunrolled⟩
  · rintro (⟨success, hsuccess⟩ | ⟨hmin, failure, hfails⟩)
    · obtain ⟨_, _, hwhole, hunrolled, hboth⟩ :=
        exists_separated_and_unrolled hmax hconsumes (.inr ⟨_, hsuccess⟩)
      cases Evaluates.deterministic hsuccess hunrolled
      rcases hboth with ⟨_, _, _, _, hfailure⟩ | ⟨_, _, ⟨_, _, _, hfailure⟩ | ⟨other, _, rfl, _, _⟩⟩
      · cases hfailure
      · cases hfailure
      · exact ⟨other, hwhole⟩
    · have hempty : (Parser.separated body separator bounds).AnswersAt rules input index _ :=
        separated_answersAt_of_fails hmax hfails
      rw [finishRounds_nil hboundary, if_pos hmin] at hempty
      exact ⟨_, hempty⟩

/-- Where both succeed, the one rolls up the other. -/
theorem rollsUp_of_successes {success success' : Success (Value α)}
    (hsuccess : (Parser.separated body separator bounds).AnswersAt rules input index
      (.success success))
    (hsuccess' : (Parser.unrolled body separator bounds).AnswersAt rules input index
      (.success success')) :
    RollsUp (body.AnswersAt rules input) (separator.AnswersAt rules input) bounds success'
      success := by
  obtain ⟨_, _, hwhole, hunrolled, hboth⟩ :=
    exists_separated_and_unrolled hmax hconsumes (.inl ⟨_, hsuccess⟩)
  cases Evaluates.deterministic hsuccess hwhole
  cases Evaluates.deterministic hsuccess' hunrolled
  rcases hboth with
    ⟨_, _, _, _, hfailure⟩ | ⟨_, _, ⟨_, _, hfailure, _⟩ | ⟨_, _, hleft, hright, hrolls⟩⟩
  · cases hfailure
  · cases hfailure
  · cases hleft
    cases hright
    exact hrolls

end Alike

/-- A body that matches nothing is matched once, whatever the separator would match behind it. -/
theorem evaluates_separated_of_still {first : Success (Value α)} (hmax : bounds.max ≠ some 0)
    (hfirst : body.AnswersAt rules input index (.success first)) (hnothing : first.text = []) :
    (Parser.separated body separator bounds).AnswersAt rules input index
      (if bounds.min ≤ 1 then .success ⟨[], index, .list [first.value]⟩
        else .failure (.tooFew body.render bounds.min 1 index)) := by
  have hstop : first.stop = index := by
    have hstop := Evaluates.stop_eq hfirst
    rw [hnothing] at hstop
    exact hstop
  have hboundary : input.isBoundary index = true := Evaluates.isBoundary_start hfirst
  refine (evaluates_separated_iff_first hmax).2 (.inr ⟨first, hfirst, .inl ⟨hstop, ?_⟩⟩)
  by_cases hmin : bounds.min ≤ 1
  · simp only [finishRounds, hmin, List.length_singleton, if_true, Text.slice?_self hboundary]
  · simp only [finishRounds, hmin, List.length_singleton, if_false]

end Rounds

end Backtrack
