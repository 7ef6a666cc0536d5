import Backtrack.Proofs.Parser.Reading

/-! # Rounds

    What a repetition with separators reads where there is no greatest number
    of rounds. Behind the first round stands a *chain*: rounds with a separator
    in front of each, up to the place where the next one fails.

    * `Chain.evaluates_loop`, `Evaluates.exists_chain`: a chain is what the loop
      goes through behind the first round.
    * `reads_separated_iff_of_min`: what a repetition reads that may be empty.
    * `reads_separated_iff`: the repetition reads a round and a chain. -/

namespace Backtrack

variable {ρ α : Type}

/-! ## §1. Chains -/

/-- The rounds that stand at an index, a separator in front of each: their text, what is left behind
it, and the values. -/
inductive Chain (rules : ρ → Option (Parser ρ α)) (input : Text) (body separator : Parser ρ α) :
    Nat → Text → Text → List (Value α) → Prop where
  | unseparated {index : Nat} {behind : Text} :
      input.dropBytes? index = some behind → Refuses rules input index separator →
      Chain rules input body separator index [] behind []
  /-- A separator with no body behind it is read all the same. -/
  | unfinished {index : Nat} {gap behind : Text} {blank : Value α} :
      Reads rules input index separator gap behind blank →
      Refuses rules input (index + gap.size) body →
      Chain rules input body separator index gap behind []
  /-- A round that reads nothing is the last. -/
  | still {index : Nat} {behind : Text} {blank value : Value α} :
      Reads rules input index separator [] behind blank →
      Reads rules input index body [] behind value →
      Chain rules input body separator index [] behind [value]
  | round {index : Nat} {gap text rest behind : Text} {blank value : Value α}
      {values : List (Value α)} :
      Reads rules input index separator gap (text ++ (rest ++ behind)) blank →
      Reads rules input (index + gap.size) body text (rest ++ behind) value →
      gap ++ text ≠ [] →
      Chain rules input body separator (index + gap.size + text.size) rest behind values →
      Chain rules input body separator index (gap ++ (text ++ rest)) behind (value :: values)

section Rounds

variable {rules : ρ → Option (Parser ρ α)} {input : Text} {index start position : Nat}
  {body separator parser : Parser ρ α} {bounds : Bounds} {text behind here : Text}
  {value : Value α} {values more : List (Value α)} {outcome : Outcome (Value α)}
  {success : Success (Value α)}

/-- What a chain reads stands at its index. -/
theorem Chain.at_index (h : Chain rules input body separator index text behind more) :
    input.dropBytes? index = some (text ++ behind) := by
  cases h with
  | unseparated hindex _ => exact hindex
  | unfinished hgap _ => exact hgap.at_index
  | still hgap _ => exact hgap.at_index
  | round hgap _ _ _ =>
    rw [List.append_assoc, List.append_assoc]
    exact hgap.at_index

/-- A match stops its size behind its index. -/
theorem Evaluates.stop_eq (h : Evaluates rules input ⊤ (.parse parser index) (.success success)) :
    success.stop = index + success.text.size := by
  have hslice : success.IsSlice input index := h.sliced
  have hindex := hslice.1
  rw [← hindex]
  rfl

/-! ## §2. Loops -/

/-- A loop goes through a chain. -/
theorem Chain.evaluates_loop (h : Chain rules input body separator position text behind more)
    (hadmits : ∀ n, bounds.admits n = true) (hne : values ≠ []) :
    Evaluates rules input ⊤ (.loop body (some separator) bounds start position values)
      (endLoop input body bounds start (position + text.size) (more.reverse ++ values)) := by
  induction h generalizing values with
  | unseparated _ hseparator =>
    obtain ⟨failure, hseparator⟩ := hseparator
    exact .separatorFails (hadmits _) hne hseparator
  | unfinished hgap hbody =>
    obtain ⟨failure, hbody⟩ := hbody
    exact .separatorMatches (hadmits _) hne hgap.evaluates (.roundFails hbody)
  | still hgap hbody =>
    exact .separatorMatches (hadmits _) hne hgap.evaluates (.roundStays hbody.evaluates rfl)
  | @round index gap text rest behind blank value more hgap hbody hmoves _ ih =>
    refine .separatorMatches (hadmits _) hne hgap.evaluates
      (.roundMoves hbody.evaluates ?_ ?_)
    · -- The round comes further than the start of its separator.
      intro hstop
      have hsize : (gap ++ text).size = 0 := by
        rw [Text.size_append]
        have hstop' : index + gap.size + text.size = index := hstop
        omega
      exact hmoves (Text.size_eq_zero_iff.1 hsize)
    · have hloop := ih (List.cons_ne_nil value values)
      rw [Text.size_append, Text.size_append, List.reverse_cons, List.append_assoc,
        ← Nat.add_assoc, ← Nat.add_assoc]
      exact hloop

/-- Every loop behind the first round goes through a chain. -/
theorem Evaluates.exists_chain
    (h : Evaluates rules input ⊤ (.loop body (some separator) bounds start position values) outcome)
    (hadmits : ∀ n, bounds.admits n = true) (hne : values ≠ [])
    (hposition : input.dropBytes? position = some here) :
    ∃ text behind more, Chain rules input body separator position text behind more ∧
      outcome = endLoop input body bounds start (position + text.size)
        (more.reverse ++ values) := by
  -- Every round but the last comes further, and none comes further than the input.
  induction hleft : input.size - position using Nat.strong_induction_on
    generalizing position values here with
  | _ left ih =>
  rcases (evaluates_loop_separated_iff (hadmits _) hne).1 h with
    ⟨failure, hseparator, rfl⟩ | ⟨gap, hseparator, hround⟩
  · exact ⟨[], here, [], .unseparated hposition ⟨failure, hseparator⟩, rfl⟩
  · obtain ⟨rest, hgap⟩ := hseparator.reads
    rw [hseparator.stop_eq] at hround
    rcases evaluates_round_iff.1 hround with
      ⟨failure, hbody, rfl⟩ | ⟨round, hbody, ⟨hstop, rfl⟩ | ⟨hstop, hloop⟩⟩
    · exact ⟨gap.text, rest, [], .unfinished hgap ⟨failure, hbody⟩, rfl⟩
    · -- The round ends where its separator starts, so neither of them reads anything.
      obtain ⟨behind, hreads⟩ := hbody.reads
      have hsize := hbody.stop_eq
      have hgapsize : gap.text.size = 0 := by omega
      have htextsize : round.text.size = 0 := by omega
      rw [Text.size_eq_zero_iff.1 htextsize, hgapsize] at hreads
      have hrest : rest = behind := by
        have hbehind := Text.dropBytes?_add_size hgap.at_index
        rw [hgapsize] at hbehind
        exact Option.some.inj (hbehind.symm.trans hreads.at_index)
      rw [Text.size_eq_zero_iff.1 hgapsize, hrest] at hgap
      exact ⟨[], behind, [round.value], .still hgap hreads, rfl⟩
    · -- The round comes further, and the chain behind it is known.
      obtain ⟨behind, hreads⟩ := hbody.reads
      have hsize := hbody.stop_eq
      have hle := hbody.stop_le_size
      rw [hsize] at hloop
      have hnext : input.dropBytes? (position + gap.text.size + round.text.size) = some behind :=
        Text.dropBytes?_add_size hreads.at_index
      obtain ⟨text, last, more, hchain, rfl⟩ := ih _ (by omega) hloop (List.cons_ne_nil _ _)
        hnext rfl
      have hbehind : behind = text ++ last := Option.some.inj (hnext.symm.trans hchain.at_index)
      have hrest : rest = round.text ++ behind :=
        Option.some.inj ((Text.dropBytes?_add_size hgap.at_index).symm.trans hreads.at_index)
      subst hrest hbehind
      refine ⟨gap.text ++ (round.text ++ text), last, round.value :: more,
        .round hgap hreads ?_ hchain, ?_⟩
      · intro hnil
        have hzero : (gap.text ++ round.text).size = 0 := by rw [hnil]; rfl
        rw [Text.size_append] at hzero
        omega
      · rw [Text.size_append, Text.size_append, List.reverse_cons, List.append_assoc,
          ← Nat.add_assoc, ← Nat.add_assoc]
        rfl

/-! ## §3. Repetitions -/

/-- A loop that has read enough ends with all that it has read. -/
theorem endLoop_of_dropBytes? (hindex : input.dropBytes? index = some (text ++ behind))
    (henough : bounds.min ≤ more.length) :
    endLoop input body bounds index (index + text.size) more.reverse =
      .success ⟨text, index, .list more⟩ := by
  simp only [endLoop, finishRounds, Text.slice?_of_dropBytes? hindex, List.reverse_reverse,
    henough, if_true]

/-- A repetition that may be empty and has no greatest number reads nothing where its body is
refused. Otherwise, as one of at least one round, it reads a round and, unless that reads nothing, a
chain. -/
theorem reads_separated_iff_of_min (hmin : bounds.min ≤ 1) (hmax : bounds.max = none) :
    Reads rules input index (.separated body separator bounds) text behind value ↔
      (bounds.min = 0 ∧ text = [] ∧ value = .list [] ∧ input.dropBytes? index = some behind ∧
        Refuses rules input index body) ∨
      ∃ first rest inner more, text = first ++ rest ∧ value = .list (inner :: more) ∧
        Reads rules input index body first (rest ++ behind) inner ∧
        (first = [] ∧ rest = [] ∧ more = [] ∨
          first ≠ [] ∧ Chain rules input body separator (index + first.size) rest behind more) := by
  have hadmits (n : Nat) : bounds.admits n = true := by
    unfold Bounds.admits
    rw [hmax]
    rfl
  have hend {text behind : Text} {inner : Value α} {more : List (Value α)}
      (hindex : input.dropBytes? index = some (text ++ behind)) :
      endLoop input body bounds index (index + text.size) (more.reverse ++ [inner]) =
        .success ⟨text, index, .list (inner :: more)⟩ := by
    rw [← List.reverse_cons]
    exact endLoop_of_dropBytes? hindex (hmin.trans (Nat.le_add_left 1 more.length))
  constructor
  · rintro ⟨hindex, h⟩
    have hround := (evaluates_loop_unseparated_iff (hadmits _) (.inr rfl)).1
      (evaluates_separated_iff.1 h)
    rcases evaluates_round_iff.1 hround with
      ⟨failure, hbody, houtcome⟩ | ⟨round, hbody, ⟨hstop, houtcome⟩ | ⟨hstop, hloop⟩⟩
    · -- Without a first round nothing is read, if that is enough.
      left
      by_cases hzero : bounds.min = 0
      · cases houtcome.trans (@endLoop_of_dropBytes? _ _ _ _ body bounds [] (text ++ behind) []
          hindex (Nat.le_of_eq hzero))
        exact ⟨hzero, rfl, rfl, hindex, failure, hbody⟩
      · simp [endLoop, finishRounds, hzero] at houtcome
    · obtain ⟨last, hreads⟩ := hbody.reads
      have hsize := hbody.stop_eq
      have hnil : round.text = [] := Text.size_eq_zero_iff.1 (by omega)
      rw [hnil] at hreads
      cases houtcome.trans (@hend [] last round.value [] hreads.at_index)
      obtain rfl : last = behind := Option.some.inj (hreads.at_index.symm.trans hindex)
      exact .inr ⟨[], [], round.value, [], rfl, rfl, hreads, .inl ⟨rfl, rfl, rfl⟩⟩
    · obtain ⟨middle, hreads⟩ := hbody.reads
      have hsize := hbody.stop_eq
      rw [hsize] at hloop
      have hnext := Text.dropBytes?_add_size hreads.at_index
      obtain ⟨rest, last, more, hchain, houtcome⟩ :=
        hloop.exists_chain hadmits (List.cons_ne_nil _ _) hnext
      obtain rfl : middle = rest ++ last := Option.some.inj (hnext.symm.trans hchain.at_index)
      have hwhole : input.dropBytes? index = some ((round.text ++ rest) ++ last) := by
        rw [List.append_assoc]
        exact hreads.at_index
      rw [Nat.add_assoc, ← Text.size_append] at houtcome
      cases houtcome.trans (hend hwhole)
      obtain rfl : last = behind :=
        List.append_cancel_left (Option.some.inj (hwhole.symm.trans hindex))
      refine .inr ⟨round.text, rest, round.value, more, rfl, rfl, hreads, .inr ⟨?_, hchain⟩⟩
      intro hnil
      rw [hnil] at hsize
      exact hstop hsize
  · rintro (⟨hzero, rfl, rfl, hindex, failure, hbody⟩ |
      ⟨first, rest, inner, more, rfl, rfl, hbody, hmore⟩)
    · have hnone : endLoop input body bounds index (index + Text.size []) [] =
          .success ⟨[], index, .list []⟩ :=
        @endLoop_of_dropBytes? _ _ _ _ _ bounds [] behind [] hindex (Nat.le_of_eq hzero)
      refine ⟨hindex, evaluates_separated_iff.2 ?_⟩
      rw [← hnone]
      exact .unseparated (hadmits _) (.inr rfl) (.roundFails hbody)
    · have hindex : input.dropBytes? index = some ((first ++ rest) ++ behind) := by
        rw [List.append_assoc]
        exact hbody.at_index
      refine ⟨hindex, evaluates_separated_iff.2 ?_⟩
      rw [← hend hindex]
      refine .unseparated (hadmits _) (.inr rfl) ?_
      rcases hmore with ⟨rfl, rfl, rfl⟩ | ⟨hne, hchain⟩
      · exact .roundStays hbody.evaluates rfl
      · refine .roundMoves hbody.evaluates ?_ ?_
        · intro hstop
          have hstop' : index + first.size = index := hstop
          exact hne (Text.size_eq_zero_iff.1 (by omega))
        · rw [Text.size_append, ← Nat.add_assoc]
          exact hchain.evaluates_loop hadmits (List.cons_ne_nil _ _)

/-- A repetition of at least one round reads a round and, unless that reads nothing, a chain. -/
theorem reads_separated_iff :
    Reads rules input index (.separated body separator .atLeastOnce) text behind value ↔
      ∃ first rest inner more, text = first ++ rest ∧ value = .list (inner :: more) ∧
        Reads rules input index body first (rest ++ behind) inner ∧
        (first = [] ∧ rest = [] ∧ more = [] ∨
          first ≠ [] ∧ Chain rules input body separator (index + first.size) rest behind more) := by
  rw [reads_separated_iff_of_min (Nat.le_refl 1) rfl]
  exact or_iff_right fun h => absurd h.1 Nat.one_ne_zero

end Rounds

end Backtrack
