import Backtrack.Proofs.Parser.Rounds

/-! # Greedy chains

    What a repetition goes through, match by match. From an index on, each
    match starts where the one before it ends, until there are as many as may
    be, or the next one fails, or the last one has come no further. Which
    matches these are does not depend on how a loop is run: a chain is defined
    here by the places it comes to.

    * `GreedyPrefix.length_le`: the input bounds how often a chain goes on.
    * `GreedyPrefix.exists_chain`: where every place that is come to has an
      answer there is a chain, and `GreedyChain.unique`: there is no other.
    * `evaluates_repetition_iff_chain`: a repetition is its chain.
    * §5 compares repetitions with sequences, where every match consumes
      something. -/

namespace Backtrack

variable {ρ α β : Type}

/-! ## §1. Chains -/

/-- The place to which the first `k` matches of a chain from an index on have come. -/
def chainPlace (index : Nat) : List (Success β) → Nat → Nat
  | _, 0 => index
  | [], _ + 1 => index
  | success :: rest, k + 1 => chainPlace success.stop rest k

/-- The match before this place has come no further than it started. -/
def StandsStill (index : Nat) (matched : List (Success β)) : Nat → Prop
  | 0 => False
  | k + 1 => chainPlace index matched (k + 1) = chainPlace index matched k

/-- The first matches of a chain: each of them starts where the one before it ends, and at none of
these places the chain is over. -/
structure GreedyPrefix (answers : Nat → Outcome β → Prop) (max : Option Nat) (index : Nat)
    (matched : List (Success β)) : Prop where
  matchesAt : ∀ k (hk : k < matched.length),
    answers (chainPlace index matched k) (.success matched[k])
  goesOn : ∀ k < matched.length, max ≠ some k ∧ ¬ StandsStill index matched k

/-- All the matches of a chain. It is over at the first place with as many matches in front of it as
may be, or where there is no further match, or where the last one has come no further. -/
structure GreedyChain (answers : Nat → Outcome β → Prop) (max : Option Nat) (index : Nat)
    (matched : List (Success β)) : Prop extends GreedyPrefix answers max index matched where
  stops : max = some matched.length ∨
    (∃ failure, answers (chainPlace index matched matched.length) (.failure failure)) ∨
    StandsStill index matched matched.length

section Chains

variable {answers : Nat → Outcome β → Prop} {max : Option Nat} {index bound : Nat}
  {success : Success β} {matched rest : List (Success β)}

@[simp] theorem chainPlace_zero (matched : List (Success β)) :
    chainPlace index matched 0 = index := by
  cases matched <;> rfl

/-- The place behind a match is where it stops. -/
theorem chainPlace_succ {k : Nat} (hk : k < matched.length) :
    chainPlace index matched (k + 1) = matched[k].stop := by
  induction matched generalizing index k with
  | nil => exact absurd hk (Nat.not_lt_zero k)
  | cons success rest ih =>
    cases k with
    | zero => exact chainPlace_zero rest
    | succ k => exact ih (Nat.lt_of_succ_lt_succ hk)

theorem GreedyPrefix.nil : GreedyPrefix answers max index [] where
  matchesAt k hk := absurd hk (Nat.not_lt_zero k)
  goesOn k hk := absurd hk (Nat.not_lt_zero k)

/-- One match less in front, and one less to come. -/
theorem ne_some_succ_iff {k : Nat} (hmax : max ≠ some 0) :
    max ≠ some (k + 1) ↔ max.map (· - 1) ≠ some k := by
  cases max with
  | none => simp
  | some m =>
    have hpos : m ≠ 0 := fun h => hmax (congrArg some h)
    simp only [ne_eq, Option.some.injEq, Option.map_some]
    omega

/-- A chain goes on behind a match that comes further. -/
theorem greedyPrefix_cons_iff :
    GreedyPrefix answers max index (success :: rest) ↔
      answers index (.success success) ∧ max ≠ some 0 ∧ (success.stop = index → rest = []) ∧
        GreedyPrefix answers (max.map (· - 1)) success.stop rest := by
  constructor
  · intro h
    have hmax : max ≠ some 0 := (h.goesOn 0 (Nat.succ_pos _)).1
    refine ⟨h.matchesAt 0 (Nat.succ_pos _), hmax, fun hstop => ?_, ?_, fun k hk => ⟨?_, ?_⟩⟩
    · cases rest with
      | nil => rfl
      | cons next rest => exact absurd hstop (h.goesOn 1 (by simp)).2
    · intro k hk
      exact h.matchesAt (k + 1) (Nat.succ_lt_succ hk)
    · exact (ne_some_succ_iff hmax).1 (h.goesOn (k + 1) (Nat.succ_lt_succ hk)).1
    · cases k with
      | zero => exact id
      | succ k => exact (h.goesOn (k + 2) (Nat.succ_lt_succ hk)).2
  · rintro ⟨hfirst, hmax, hstop, hrest⟩
    refine ⟨fun k hk => ?_, fun k hk => ?_⟩
    · cases k with
      | zero => exact hfirst
      | succ k => exact hrest.matchesAt k (Nat.lt_of_succ_lt_succ hk)
    · -- The second place is the one that shows whether the first match has come further.
      match k with
      | 0 => exact ⟨hmax, id⟩
      | 1 =>
        have hlt : 0 < rest.length := Nat.lt_of_succ_lt_succ hk
        refine ⟨(ne_some_succ_iff hmax).2 (hrest.goesOn 0 hlt).1, fun hstill => ?_⟩
        have hplace : chainPlace success.stop rest 0 = index := hstill
        rw [chainPlace_zero] at hplace
        rw [hstop hplace] at hlt
        exact absurd hlt (Nat.lt_irrefl 0)
      | k + 2 =>
        have hgoes := hrest.goesOn (k + 1) (Nat.lt_of_succ_lt_succ hk)
        exact ⟨(ne_some_succ_iff hmax).2 hgoes.1, hgoes.2⟩

theorem greedyChain_nil_iff : GreedyChain answers max index [] ↔
    max = some 0 ∨ ∃ failure, answers index (.failure failure) := by
  constructor
  · intro h
    rcases h.stops with hmax | hfails | hstill
    · exact .inl hmax
    · exact .inr hfails
    · exact hstill.elim
  · intro h
    refine ⟨.nil, ?_⟩
    rcases h with hmax | hfails
    · exact .inl hmax
    · exact .inr (.inl hfails)

/-- A match that comes no further is the last, and any other has a chain behind it. -/
theorem greedyChain_cons_iff :
    GreedyChain answers max index (success :: rest) ↔
      answers index (.success success) ∧ max ≠ some 0 ∧
        (success.stop = index ∧ rest = [] ∨
          success.stop ≠ index ∧ GreedyChain answers (max.map (· - 1)) success.stop rest) := by
  constructor
  · intro h
    obtain ⟨hfirst, hmax, hstop, hrest⟩ := greedyPrefix_cons_iff.1 h.toGreedyPrefix
    refine ⟨hfirst, hmax, ?_⟩
    by_cases hmoves : success.stop = index
    · exact .inl ⟨hmoves, hstop hmoves⟩
    · refine .inr ⟨hmoves, hrest, ?_⟩
      rcases h.stops with hfull | hfails | hstill
      · exact .inl (by simp [hfull])
      · exact .inr (.inl hfails)
      · cases rest with
        | nil => exact absurd hstill hmoves
        | cons next rest => exact .inr (.inr hstill)
  · rintro ⟨hfirst, hmax, ⟨hstop, rfl⟩ | ⟨hmoves, hrest⟩⟩
    · exact ⟨greedyPrefix_cons_iff.2 ⟨hfirst, hmax, fun _ => rfl, .nil⟩, .inr (.inr hstop)⟩
    · refine ⟨greedyPrefix_cons_iff.2 ⟨hfirst, hmax, fun h => absurd h hmoves,
        hrest.toGreedyPrefix⟩, ?_⟩
      rcases hrest.stops with hfull | hfails | hstill
      · refine .inl ?_
        by_contra hnot
        exact (ne_some_succ_iff hmax).1 hnot hfull
      · exact .inr (.inl hfails)
      · cases rest with
        | nil => exact hstill.elim
        | cons next rest => exact .inr (.inr hstill)

/-! ## §2. How far chains go -/

/-- No chain goes on for more matches than there are bytes left, and one. -/
theorem GreedyPrefix.length_le (h : GreedyPrefix answers max index matched)
    (hinside : ∀ place success, answers place (.success success) →
      place ≤ success.stop ∧ success.stop ≤ bound) :
    matched.length ≤ bound - index + 1 := by
  induction matched generalizing max index with
  | nil => exact Nat.zero_le _
  | cons success rest ih =>
    obtain ⟨hfirst, _, hstop, hrest⟩ := greedyPrefix_cons_iff.1 h
    obtain ⟨hle, hbound⟩ := hinside _ _ hfirst
    have hlength := ih hrest
    by_cases hmoves : success.stop = index
    · rw [hstop hmoves]
      exact Nat.le_add_left _ _
    · rw [List.length_cons]
      omega

/-- One match more, and one less to come. -/
theorem map_sub_succ {count : Nat} :
    (max.map (· - count)).map (· - 1) = max.map (· - (count + 1)) := by
  rw [Option.map_map]
  rfl

/-- Whatever goes on from place to place along the answers, counting the matches, goes through a
chain. -/
theorem exists_chain_of_going (going : Nat → Nat → Prop)
    (hstep : ∀ place count, going place count → max.map (· - count) ≠ some 0 →
      ∃ outcome, answers place outcome ∧ ∀ success, outcome = .success success →
        success.stop ≠ place → going success.stop (count + 1))
    (hinside : ∀ place success, answers place (.success success) →
      place ≤ success.stop ∧ success.stop ≤ bound)
    {count : Nat} (h : going index count) :
    ∃ matched, GreedyChain answers (max.map (· - count)) index matched := by
  -- Every match but the last leaves less to come.
  induction hleft : bound - index using Nat.strong_induction_on generalizing count index with
  | _ left ih =>
  by_cases hmax : max.map (· - count) = some 0
  · exact ⟨[], greedyChain_nil_iff.2 (.inl hmax)⟩
  obtain ⟨outcome, hanswer, hgoes⟩ := hstep index count h hmax
  cases outcome with
  | failure failure => exact ⟨[], greedyChain_nil_iff.2 (.inr ⟨failure, hanswer⟩)⟩
  | success success =>
    obtain ⟨hle, hbound⟩ := hinside _ _ hanswer
    by_cases hmoves : success.stop = index
    · exact ⟨[success], greedyChain_cons_iff.2 ⟨hanswer, hmax, .inl ⟨hmoves, rfl⟩⟩⟩
    · obtain ⟨rest, hrest⟩ := ih _ (by omega) (hgoes success rfl hmoves) rfl
      rw [← map_sub_succ] at hrest
      exact ⟨success :: rest, greedyChain_cons_iff.2 ⟨hanswer, hmax, .inr ⟨hmoves, hrest⟩⟩⟩

/-- Where the places that a chain comes to have answers, the chain has an end. -/
theorem GreedyPrefix.exists_chain
    (hanswers : ∀ matched, GreedyPrefix answers max index matched →
      ∃ outcome, answers (chainPlace index matched matched.length) outcome)
    (hinside : ∀ place success, answers place (.success success) →
      place ≤ success.stop ∧ success.stop ≤ bound) :
    ∃ matched, GreedyChain answers max index matched := by
  have hmax : max.map (· - 0) = max := congrFun Option.map_id max
  rw [← hmax] at hanswers ⊢
  refine exists_chain_of_going (fun place count =>
    ∀ matched, GreedyPrefix answers (max.map (· - count)) place matched →
      ∃ outcome, answers (chainPlace place matched matched.length) outcome) ?_ hinside hanswers
  intro place count hgoing hopen
  obtain ⟨outcome, hanswer⟩ : ∃ outcome, answers place outcome := hgoing [] .nil
  refine ⟨outcome, hanswer, ?_⟩
  rintro success rfl hmoves matched hmatched
  rw [← map_sub_succ] at hmatched
  exact hgoing (success :: matched)
    (greedyPrefix_cons_iff.2 ⟨hanswer, hopen, fun h => absurd h hmoves, hmatched⟩)

/-- There is one chain at most. -/
theorem GreedyChain.unique (h : GreedyChain answers max index matched)
    (h' : GreedyChain answers max index rest)
    (hanswers : ∀ place outcome outcome', answers place outcome → answers place outcome' →
      outcome = outcome') : matched = rest := by
  induction matched generalizing max index rest with
  | nil =>
    cases rest with
    | nil => rfl
    | cons other others =>
      obtain ⟨hother, hmax, _⟩ := greedyChain_cons_iff.1 h'
      rcases greedyChain_nil_iff.1 h with hfull | ⟨failure, hfails⟩
      · exact absurd hfull hmax
      · cases hanswers _ _ _ hother hfails
  | cons success matched ih =>
    obtain ⟨hsuccess, hmax, hrest⟩ := greedyChain_cons_iff.1 h
    cases rest with
    | nil =>
      rcases greedyChain_nil_iff.1 h' with hfull | ⟨failure, hfails⟩
      · exact absurd hfull hmax
      · cases hanswers _ _ _ hsuccess hfails
    | cons other others =>
      obtain ⟨hother, _, hothers⟩ := greedyChain_cons_iff.1 h'
      cases hanswers _ _ _ hsuccess hother
      rcases hrest with ⟨hstop, rfl⟩ | ⟨hmoves, hrest⟩
      · rcases hothers with ⟨_, rfl⟩ | ⟨hmoves, _⟩
        · rfl
        · exact absurd hstop hmoves
      · rcases hothers with ⟨hstop, _⟩ | ⟨_, hothers⟩
        · exact absurd hstop hmoves
        · rw [ih hrest hothers]

end Chains

/-! ## §3. Answers -/

/-- What a parser answers at a place of the input. -/
def Parser.AnswersAt (rules : ρ → Option (Parser ρ α)) (input : Text) (parser : Parser ρ α)
    (place : Nat) (outcome : Outcome (Value α)) : Prop :=
  Evaluates rules input ⊤ (.parse parser place) outcome

section Answers

variable {rules : ρ → Option (Parser ρ α)} {input : Text} {first next parser : Parser ρ α}
  {index : Nat} {success : Success (Value α)}

theorem Parser.AnswersAt.inside (h : parser.AnswersAt rules input index (.success success)) :
    index ≤ success.stop ∧ success.stop ≤ input.size :=
  ⟨Evaluates.start_le_stop h, Evaluates.stop_le_size h⟩

/-- Matches one behind the other match the slice from the start of the first to the end of the
second. -/
theorem joinOutcome_of_slice {text : Text} {front back : Success (Value α)}
    (h : input.slice? index back.stop = some text) :
    joinOutcome input index front (.success back) =
      .success ⟨text, index, .pair front.value back.value⟩ := by
  simp only [joinOutcome, joinSequence, h]

/-- A sequence succeeds where its parts do, one behind the other. -/
theorem answersAt_sequence_success_iff :
    (Parser.sequence first next).AnswersAt rules input index (.success success) ↔
      ∃ front back, first.AnswersAt rules input index (.success front) ∧
        next.AnswersAt rules input front.stop (.success back) ∧
        success = ⟨front.text ++ back.text, index, .pair front.value back.value⟩ ∧
        success.stop = back.stop := by
  have hjoin {front back : Success (Value α)}
      (hfront : first.AnswersAt rules input index (.success front))
      (hback : next.AnswersAt rules input front.stop (.success back)) :
      joinOutcome input index front (.success back) =
          .success ⟨front.text ++ back.text, index, .pair front.value back.value⟩ ∧
        index + (front.text ++ back.text).size = back.stop := by
    have hslice := Evaluates.slice?_of_sequence hfront hback
    exact ⟨joinOutcome_of_slice hslice, Text.add_size_of_slice? hslice⟩
  unfold Parser.AnswersAt
  rw [evaluates_sequence_iff]
  constructor
  · rintro (⟨failure, _, hfailure⟩ | ⟨front, hfront, outcome, hback, houtcome⟩)
    · cases hfailure
    · cases outcome with
      | failure failure => cases houtcome
      | success back =>
        obtain ⟨hboth, hstop⟩ := hjoin hfront hback
        rw [hboth] at houtcome
        cases houtcome
        exact ⟨front, back, hfront, hback, rfl, hstop⟩
  · rintro ⟨front, back, hfront, hback, rfl, _⟩
    exact .inr ⟨front, hfront, _, hback, (hjoin hfront hback).1.symm⟩

/-- A sequence fails where one of its parts does. -/
theorem answersAt_sequence_failure_iff {failure : Failure} :
    (Parser.sequence first next).AnswersAt rules input index (.failure failure) ↔
      first.AnswersAt rules input index (.failure failure) ∨
        ∃ front, first.AnswersAt rules input index (.success front) ∧
          next.AnswersAt rules input front.stop (.failure failure) := by
  unfold Parser.AnswersAt
  rw [evaluates_sequence_iff]
  constructor
  · rintro (⟨failure, hfirst, hfailure⟩ | ⟨front, hfront, outcome, hback, houtcome⟩)
    · cases hfailure
      exact .inl hfirst
    · cases outcome with
      | failure other =>
        cases houtcome
        exact .inr ⟨front, hfront, hback⟩
      | success back =>
        -- Two matches, one behind the other, always make a slice.
        have hslice := Evaluates.slice?_of_sequence hfront hback
        cases houtcome.trans (joinOutcome_of_slice hslice)
  · rintro (hfirst | ⟨front, hfront, hback⟩)
    · exact .inl ⟨failure, hfirst, rfl⟩
    · exact .inr ⟨front, hfront, _, hback, rfl⟩

end Answers

/-! ## §4. Repetitions -/

/-- The values of matches, in order. -/
def valuesOf (matched : List (Success β)) : List β :=
  matched.map Success.value

section Repetitions

variable {rules : ρ → Option (Parser ρ α)} {input : Text} {body : Parser ρ α} {bounds : Bounds}
  {index start position : Nat} {values : List (Value α)} {outcome : Outcome (Value α)}
  {matched : List (Success (Value α))}

/-- No more values are admitted where none are left to come. -/
theorem admits_eq_false_iff {n : Nat} :
    bounds.admits n = false ↔ bounds.max.map (· - n) = some 0 := by
  unfold Bounds.admits
  cases bounds.max with
  | none => simp
  | some m =>
    simp only [Option.all_some, decide_eq_false_iff_not, Option.map_some, Option.some.injEq]
    omega

/-- A loop that may go on has not come to its greatest number. -/
theorem admits_of_map_ne {n : Nat} (h : bounds.max.map (· - n) ≠ some 0) :
    bounds.admits n = true := by
  rw [← Bool.not_eq_false, admits_eq_false_iff]
  exact h

/-- A loop goes through a chain, from where it is and with as many matches as are left to come. -/
theorem GreedyChain.evaluates_loop
    (h : GreedyChain (body.AnswersAt rules input) (bounds.max.map (· - values.length)) position
      matched) :
    Evaluates rules input ⊤ (.loop body none bounds start position values)
      (endLoop input body bounds start (chainPlace position matched matched.length)
        ((valuesOf matched).reverse ++ values)) := by
  induction matched generalizing position values with
  | nil =>
    rw [List.length_nil, chainPlace_zero]
    cases hadmits : bounds.admits values.length with
    | false => exact .full hadmits
    | true =>
      rcases greedyChain_nil_iff.1 h with hfull | ⟨failure, hfails⟩
      · rw [admits_eq_false_iff.2 hfull] at hadmits
        cases hadmits
      · exact .unseparated hadmits (.inl rfl) (.roundFails hfails)
  | cons success rest ih =>
    obtain ⟨hfirst, hmax, hrest⟩ := greedyChain_cons_iff.1 h
    refine .unseparated (admits_of_map_ne hmax) (.inl rfl) ?_
    rcases hrest with ⟨hstop, rfl⟩ | ⟨hmoves, hrest⟩
    · have hplace : chainPlace position [success] 1 = position := hstop
      rw [List.length_singleton, hplace]
      exact .roundStays hfirst hstop
    · have hrest : GreedyChain (body.AnswersAt rules input)
          (bounds.max.map (· - (success.value :: values).length)) success.stop rest := by
        rw [map_sub_succ] at hrest
        exact hrest
      refine .roundMoves hfirst hmoves ?_
      have hloop := ih hrest
      rw [show (valuesOf (success :: rest)).reverse ++ values =
        (valuesOf rest).reverse ++ (success.value :: values) by simp [valuesOf]]
      exact hloop

/-- Every loop goes through a chain. -/
theorem Evaluates.exists_greedyChain
    (h : Evaluates rules input ⊤ (.loop body none bounds start position values) outcome) :
    ∃ matched, GreedyChain (body.AnswersAt rules input) (bounds.max.map (· - values.length))
      position matched := by
  refine exists_chain_of_going (fun place count => ∃ values outcome,
    values.length = count ∧ Evaluates rules input ⊤ (.loop body none bounds start place values)
      outcome) ?_ (fun _ _ => Parser.AnswersAt.inside) ⟨values, outcome, rfl, h⟩
  rintro place _ ⟨values, outcome, rfl, h⟩ hopen
  have hround := (evaluates_loop_unseparated_iff (admits_of_map_ne hopen) (.inl rfl)).1 h
  rcases evaluates_round_iff.1 hround with ⟨failure, hbody, _⟩ | ⟨round, hbody, hafter⟩
  · exact ⟨_, hbody, nofun⟩
  · refine ⟨_, hbody, ?_⟩
    rintro success hsuccess hmoves
    cases hsuccess
    rcases hafter with ⟨hstop, _⟩ | ⟨_, hloop⟩
    · exact absurd hstop hmoves
    · exact ⟨_, _, rfl, hloop⟩

/-- **A repetition is its chain**: enough matches make a list of their values, and too few a
failure. -/
theorem evaluates_repetition_iff_chain :
    Evaluates rules input ⊤ (.parse (.repetition body bounds) index) outcome ↔
      ∃ matched, GreedyChain (body.AnswersAt rules input) bounds.max index matched ∧
        outcome = finishRounds input body bounds index
          ⟨valuesOf matched, chainPlace index matched matched.length⟩ := by
  have hmax : bounds.max.map (· - ([] : List (Value α)).length) = bounds.max :=
    congrFun Option.map_id bounds.max
  have hend {matched : List (Success (Value α))}
      (hchain : GreedyChain (body.AnswersAt rules input) bounds.max index matched) :
      Evaluates rules input ⊤ (.loop body none bounds index index [])
        (finishRounds input body bounds index
          ⟨valuesOf matched, chainPlace index matched matched.length⟩) := by
    rw [← hmax] at hchain
    have hloop : Evaluates rules input ⊤ (.loop body none bounds index index []) _ :=
      hchain.evaluates_loop
    rw [List.append_nil, endLoop, List.reverse_reverse] at hloop
    exact hloop
  rw [evaluates_repetition_iff]
  constructor
  · intro h
    obtain ⟨matched, hchain⟩ := h.exists_greedyChain
    rw [hmax] at hchain
    exact ⟨matched, hchain, h.deterministic (hend hchain)⟩
  · rintro ⟨matched, hchain, rfl⟩
    exact hend hchain

/-- A chain comes to places of the input only, and to none in front of its start. -/
theorem GreedyPrefix.isBoundary_place {max : Option Nat}
    (h : GreedyPrefix (body.AnswersAt rules input) max index matched)
    (hboundary : input.isBoundary index = true) :
    input.isBoundary (chainPlace index matched matched.length) = true ∧
      index ≤ chainPlace index matched matched.length := by
  induction matched generalizing index max with
  | nil => exact ⟨hboundary, le_refl index⟩
  | cons success rest ih =>
    obtain ⟨hfirst, _, _, hrest⟩ := greedyPrefix_cons_iff.1 h
    obtain ⟨hplace, hle⟩ := ih hrest (Evaluates.isBoundary_stop hfirst)
    exact ⟨hplace, hfirst.inside.1.trans hle⟩

/-- Enough rounds make a list of their values. -/
theorem finishRounds_of_enough (body : Parser ρ α) {rounds : List (Value α)} {stop : Nat}
    (henough : bounds.min ≤ rounds.length) (hboundary : input.isBoundary index = true)
    (hstop : input.isBoundary stop = true) (hle : index ≤ stop) :
    ∃ text, input.slice? index stop = some text ∧
      finishRounds input body bounds index ⟨rounds, stop⟩ =
        .success ⟨text, index, .list rounds⟩ := by
  obtain ⟨text, htext⟩ := Text.exists_slice? hboundary hstop hle
  refine ⟨text, htext, ?_⟩
  simp only [finishRounds, henough, if_true, htext]

/-- Too few rounds fail where they started. -/
theorem finishRounds_of_few (body : Parser ρ α) {rounds : List (Value α)} {stop : Nat}
    (hfew : ¬ bounds.min ≤ rounds.length) :
    finishRounds input body bounds index ⟨rounds, stop⟩ =
      .failure (.tooFew body.render bounds.min rounds.length index) := by
  simp only [finishRounds, hfew, if_false]

/-! ## §5. Where every match consumes something -/

/-- A chain of matches that all consume something, with no bound on their number, is over where
there is no further match. -/
theorem GreedyChain.fails_behind
    (h : GreedyChain (body.AnswersAt rules input) none index matched)
    (hconsumes : ∀ place success, body.AnswersAt rules input place (.success success) →
      success.text ≠ []) :
    ∃ failure, body.AnswersAt rules input (chainPlace index matched matched.length)
      (.failure failure) := by
  rcases h.stops with hmax | hfails | hstill
  · cases hmax
  · exact hfails
  · -- The last match has come no further, so it has consumed nothing.
    cases hlength : matched.length with
    | zero =>
      rw [hlength] at hstill
      exact hstill.elim
    | succ k =>
      have hk : k < matched.length := by omega
      rw [hlength] at hstill
      have hlast := h.matchesAt k hk
      have hstop : matched[k].stop = chainPlace index matched k :=
        (chainPlace_succ hk).symm.trans hstill
      exact absurd (Evaluates.text_eq_nil hlast hstop) (hconsumes _ _ hlast)

/-- Behind a repetition without a greatest number there is nothing for the same parser to match. -/
theorem not_evaluates_repetition_then {success : Success (Value α)}
    (hconsumes : ∀ place success, body.AnswersAt rules input place (.success success) →
      success.text ≠ []) :
    ¬ Evaluates rules input ⊤ (.parse (.sequence (.repetition body .many) body) index)
      (.success success) := by
  intro h
  obtain ⟨front, back, hfront, hback, _⟩ := answersAt_sequence_success_iff.1 h
  obtain ⟨matched, hchain, hfinish⟩ := evaluates_repetition_iff_chain.1 hfront
  obtain ⟨failure, hfails⟩ := hchain.fails_behind hconsumes
  -- The repetition stops where its chain is over.
  have hstop : front.stop = chainPlace index matched matched.length := by
    simp only [finishRounds, Bounds.many, Nat.zero_le, if_true] at hfinish
    split at hfinish
    · next text htext =>
      cases hfinish
      exact Text.add_size_of_slice? htext
    · cases hfinish
  rw [hstop] at hback
  cases Evaluates.deterministic hback hfails

/-- Parsers one behind the other match where the first does and the others, which are all the same,
do behind it. -/
theorem evaluates_sequenceAll_replicate_iff {first : Parser ρ α} {success : Success (Value α)}
    (hconsumes : ∀ place success, body.AnswersAt rules input place (.success success) →
      success.text ≠ []) (n : Nat) :
    Evaluates rules input ⊤ (.parse (Parser.sequenceAll first (List.replicate n body)) index)
        (.success success) ↔
      ∃ front rest, Evaluates rules input ⊤ (.parse first index) (.success front) ∧
        rest.length = n ∧ GreedyPrefix (body.AnswersAt rules input) none front.stop rest ∧
        input.slice? index (chainPlace front.stop rest n) = some success.text ∧
        success.index = index ∧ success.value = Value.chain front.value (valuesOf rest) := by
  induction n generalizing first with
  | zero =>
    constructor
    · intro h
      have h : Evaluates rules input ⊤ (.parse first index) (.success success) := h
      obtain ⟨hindex, hslice⟩ := h.isSlice
      exact ⟨success, [], h, rfl, .nil, hslice, hindex, rfl⟩
    · rintro ⟨front, rest, hfront, hlength, _, htext, hindex, hvalue⟩
      obtain rfl := List.length_eq_zero_iff.1 hlength
      obtain ⟨hindex', hslice⟩ := hfront.isSlice
      have hsame : success = front := by
        obtain ⟨text, _, value⟩ := success
        obtain ⟨text', _, value'⟩ := front
        cases Option.some.inj (htext.symm.trans hslice)
        cases hvalue
        cases hindex
        cases hindex'
        rfl
      rw [hsame]
      exact hfront
  | succ n ih =>
    have hall : Parser.sequenceAll first (List.replicate (n + 1) body) =
      Parser.sequenceAll (.sequence first body) (List.replicate n body) := rfl
    rw [hall, ih]
    constructor
    · rintro ⟨both, rest, hboth, hlength, hrest, htext, hindex, hvalue⟩
      obtain ⟨front, back, hfront, hback, rfl, hstop⟩ := answersAt_sequence_success_iff.1 hboth
      have hmoves : back.stop ≠ front.stop := fun h =>
        hconsumes _ _ hback (Evaluates.text_eq_nil hback h)
      rw [hstop] at hrest htext
      exact ⟨front, back :: rest, hfront, congrArg (· + 1) hlength,
        greedyPrefix_cons_iff.2 ⟨hback, nofun, fun h => absurd h hmoves, hrest⟩, htext, hindex,
        hvalue⟩
    · rintro ⟨front, rest, hfront, hlength, hrest, htext, hindex, hvalue⟩
      cases rest with
      | nil => cases hlength
      | cons back rest =>
        obtain ⟨hback, _, _, hrest⟩ := greedyPrefix_cons_iff.1 hrest
        have hstop : index + (front.text ++ back.text).size = back.stop :=
          Text.add_size_of_slice? (Evaluates.slice?_of_sequence hfront hback)
        refine ⟨⟨front.text ++ back.text, index, .pair front.value back.value⟩, rest,
          answersAt_sequence_success_iff.2 ⟨front, back, hfront, hback, rfl, hstop⟩,
          Nat.succ.inj hlength, ?_, ?_, hindex, hvalue⟩
        · show GreedyPrefix _ none (index + (front.text ++ back.text).size) rest
          rw [hstop]
          exact hrest
        · show input.slice? index (chainPlace (index + (front.text ++ back.text).size) rest n) = _
          rw [hstop]
          exact htext

/-- A chain of just as many matches as may be. -/
theorem greedyChain_full_iff {answers : Nat → Outcome β → Prop} {matched : List (Success β)} :
    GreedyChain answers (some matched.length) index matched ↔
      GreedyPrefix answers none index matched := by
  constructor
  · intro h
    exact ⟨h.matchesAt, fun k hk => ⟨nofun, (h.goesOn k hk).2⟩⟩
  · intro h
    refine ⟨⟨h.matchesAt, fun k hk => ⟨fun hmax => ?_, (h.goesOn k hk).2⟩⟩, .inl rfl⟩
    exact absurd (Option.some.inj hmax) hk.ne'

/-- To match so many times, no more and no less. -/
theorem evaluates_exactly_iff {success : Success (Value α)} {n : Nat} :
    Evaluates rules input ⊤ (.parse (.repetition body ⟨n, some n⟩) index) (.success success) ↔
      ∃ matched, matched.length = n ∧ GreedyPrefix (body.AnswersAt rules input) none index matched ∧
        input.slice? index (chainPlace index matched n) = some success.text ∧
        success.index = index ∧ success.value = .list (valuesOf matched) := by
  have hlength (matched : List (Success (Value α))) :
      (valuesOf matched).length = matched.length := List.length_map _
  rw [evaluates_repetition_iff_chain]
  constructor
  · rintro ⟨matched, hchain, hfinish⟩
    unfold finishRounds at hfinish
    split at hfinish
    · next henough =>
      split at hfinish
      · next text htext =>
        -- There are enough matches, and no more than may be.
        have hn : matched.length = n := by
          have henough : n ≤ (valuesOf matched).length := henough
          rw [hlength] at henough
          by_contra hne
          have hlt : n < matched.length := by omega
          exact (hchain.goesOn n hlt).1 rfl
        cases hfinish
        subst hn
        exact ⟨matched, rfl, greedyChain_full_iff.1 hchain, htext, rfl, rfl⟩
      · cases hfinish
    · cases hfinish
  · rintro ⟨matched, rfl, hprefix, htext, hindex, hvalue⟩
    refine ⟨matched, greedyChain_full_iff.2 hprefix, ?_⟩
    obtain ⟨text, _, value⟩ := success
    simp only [finishRounds, hlength, le_refl, if_true, htext]
    cases hindex
    cases hvalue
    rfl

/-- To match one time behind the other, as often as there are copies. -/
theorem evaluates_copies_iff {success : Success (Value α)} {n : Nat}
    (hconsumes : ∀ place success, body.AnswersAt rules input place (.success success) →
      success.text ≠ []) :
    Evaluates rules input ⊤ (.parse (Parser.sequenceAll body (List.replicate n body)) index)
        (.success success) ↔
      ∃ first rest, (first :: rest).length = n + 1 ∧
        GreedyPrefix (body.AnswersAt rules input) none index (first :: rest) ∧
        input.slice? index (chainPlace index (first :: rest) (n + 1)) = some success.text ∧
        success.index = index ∧ success.value = Value.chain first.value (valuesOf rest) := by
  rw [evaluates_sequenceAll_replicate_iff hconsumes]
  constructor
  · rintro ⟨first, rest, hfirst, hlength, hrest, htext, hindex, hvalue⟩
    have hmoves : first.stop ≠ index := fun h => hconsumes _ _ hfirst (hfirst.text_eq_nil h)
    exact ⟨first, rest, congrArg (· + 1) hlength,
      greedyPrefix_cons_iff.2 ⟨hfirst, nofun, fun h => absurd h hmoves, hrest⟩, htext, hindex,
      hvalue⟩
  · rintro ⟨first, rest, hlength, hprefix, htext, hindex, hvalue⟩
    obtain ⟨hfirst, _, _, hrest⟩ := greedyPrefix_cons_iff.1 hprefix
    exact ⟨first, rest, hfirst, Nat.succ.inj hlength, hrest, htext, hindex, hvalue⟩

end Repetitions

end Backtrack
