import Backtrack.Proofs.Session.Located
import Backtrack.Proofs.Session.Repetition

/-! # Loops that agree

    A repetition has a loop of its own, and so has one with separators; an
    option has none. Where the separator is the empty text the two loops
    take the same rounds, although one of them looks for a separator in
    front of each round and tells by another place whether the round has
    moved on. A loop that may take one round is an option.

    Both hold wherever the runs start, be it a place in the input or not,
    and also of runs that stop without an outcome.

    * `separatedRounds_nothing`, `rounds_once`: the loops.
    * `Grammar.start_around`: grammars whose root is put around another.
    * `Grammar.loops_agree`: what the runs of such grammars answer. -/

namespace Backtrack

variable {κ α β : Type}

/-! ## §1. Rounds -/

section Rounds

variable {input : Text} {step : Nat → Except Stop (Outcome (Value α))} {bounds : Bounds}
  {limit position index count : Nat} {values : List (Value α)}

/-- The empty text matches at every place of the input, and stays there. -/
theorem matchLiteral_nothing (h : input.isBoundary index = true) :
    (matchLiteral input [] index : Outcome (Value α)) = .success (.empty index (.text [])) := by
  obtain ⟨rest, hrest⟩ := Option.isSome_iff_exists.1 h
  unfold matchLiteral
  rw [hrest]
  rfl

/-- Behind a first round, which ends at a place of the input, the empty text is found where the
round has ended. -/
theorem separate_nothing (hposition : values ≠ [] → input.isBoundary position = true) :
    (if values.isEmpty then pure (some position)
      else separatedRounds.separate
        (fun place => pure (matchLiteral input [] place : Outcome (Value α))) position :
      Except Stop (Option Nat)) = .ok (some position) := by
  by_cases hvalues : values = []
  · simp only [hvalues, List.isEmpty_nil, if_true]
    rfl
  · have hempty : values.isEmpty = false := by simp [hvalues]
    have hmatch := matchLiteral_nothing (α := α) (hposition hvalues)
    simp only [hempty, Bool.false_eq_true, if_false, separatedRounds.separate, pure_bind, hmatch]
    rfl

/-- **A loop whose separator is the empty text is the loop without separators**: if the matches of
the step are slices of the input, both take the same rounds or stop in the same one. -/
theorem separatedRounds_nothing
    (hstep : ∀ place outcome, step place = .ok outcome → outcome.Sliced input place)
    (hposition : values ≠ [] → input.isBoundary position = true) :
    separatedRounds step (fun place => pure (matchLiteral input [] place)) bounds limit position
        count values =
      rounds step bounds limit position count values := by
  induction limit generalizing position count values with
  | zero => rfl
  | succ limit ih =>
    unfold separatedRounds rounds
    rw [separate_nothing hposition]
    by_cases hadmits : bounds.admits count = true
    · rw [if_pos hadmits, if_pos hadmits]
      show (step position >>= _) = step position >>= _
      cases hround : step position with
      | error stop => rfl
      | ok outcome =>
        cases outcome with
        | failure failure => rfl
        | success success =>
          -- The place in front of the separator is the one behind it, which both loops compare.
          show (if success.stop = position then _ else _) = if success.stop = position then _ else _
          by_cases hstop : success.stop = position
          · rw [if_pos hstop, if_pos hstop]
          · rw [if_neg hstop, if_neg hstop]
            have hslice : success.IsSlice input position := hstep position _ hround
            exact ih fun _ => Text.isBoundary_stop_of_slice? hslice.2
    · rw [if_neg hadmits, if_neg hadmits]

/-- The rounds of a loop that may take one. -/
def Outcome.onlyRound (index : Nat) : Outcome β → Rounds β
  | .success s => ⟨[s.value], s.stop⟩
  | .failure _ => ⟨[], index⟩

/-- A loop that may take one round runs its step once, whether or not the step moves on. -/
theorem rounds_once (step : Nat → Except Stop (Outcome β)) (limit index : Nat) :
    rounds step ⟨0, some 1⟩ (limit + 1) index 0 [] =
      (step index).map (Outcome.onlyRound index) := by
  have hfirst : (⟨0, some 1⟩ : Bounds).admits 0 = true := rfl
  have hnext : ¬ (⟨0, some 1⟩ : Bounds).admits 1 = true := by decide
  unfold rounds
  rw [if_pos hfirst]
  cases step index with
  | error stop => rfl
  | ok outcome =>
    cases outcome with
    | failure failure => rfl
    | success success =>
      show (if success.stop = index then _ else _) = _
      by_cases hstop : success.stop = index
      · rw [if_pos hstop, ← hstop]
        rfl
      · rw [if_neg hstop]
        cases limit with
        | zero => rfl
        | succ limit =>
          unfold rounds
          rw [if_neg hnext]
          rfl

end Rounds

/-- The list of what an option matched: one value or none. -/
def Value.optionToList : Value α → Value α
  | .none => .list []
  | .some value => .list [value]
  | other => other

/-- The outcome of a loop of at most one round is that of an option, with a list for its value. -/
theorem finishRounds_once {ρ : Type} {input : Text} {index : Nat} {outcome : Outcome (Value α)}
    (body : Parser ρ α) (h : outcome.Sliced input index) :
    finishRounds input body ⟨0, some 1⟩ index (outcome.onlyRound index) =
      mapOutcome Value.optionToList (orNothing input index outcome) := by
  cases outcome with
  | success success =>
    obtain ⟨hindex, hslice⟩ := h
    unfold finishRounds Outcome.onlyRound
    simp only [Nat.zero_le, if_true, hslice]
    rw [← hindex]
    rfl
  | failure failure =>
    unfold finishRounds orNothing Outcome.onlyRound
    by_cases hboundary : input.isBoundary index = true
    · simp only [Nat.zero_le, if_true, Text.slice?_self hboundary, hboundary]
      rfl
    · have hslice : input.slice? index index = none := by
        cases hcut : input.slice? index index with
        | none => rfl
        | some text => exact absurd (Text.isBoundary_start_of_slice? hcut) hboundary
      simp only [Nat.zero_le, if_true, hslice, hboundary]
      rfl

/-- The value of an option is what its body matched, or nothing. -/
theorem orNothing_value {input : Text} {index : Nat} {outcome : Outcome (Value α)}
    {success : Success (Value α)} (h : orNothing input index outcome = .success success) :
    success.value = .none ∨ ∃ value, success.value = .some value := by
  cases outcome with
  | success inner =>
    cases h
    exact .inr ⟨inner.value, rfl⟩
  | failure failure =>
    unfold orNothing at h
    by_cases hboundary : input.isBoundary index = true
    · rw [if_pos hboundary] at h
      cases h
      exact .inl rfl
    · rw [if_neg hboundary] at h
      cases h

/-! ## §2. Evaluation of another root -/

section Roots

variable [DecidableEq κ] {session : Session κ α} {input : Text} {index : Nat}

/-- The session that runs another parser. -/
def Session.withRoot (session : Session κ α) (root : BuiltParser κ α) : Session κ α :=
  { session with root }

theorem Session.answer_withRoot (session : Session κ α) (root : BuiltParser κ α) (input : Text)
    (depth : Nat) : (session.withRoot root).answer input depth = session.answer input depth := by
  induction depth with
  | zero => rfl
  | succ depth ih =>
    funext name index
    unfold Session.answer
    rw [ih]
    rfl

/-- A session evaluates its root by what its rules answer, and those do not depend on the root. -/
theorem Session.evaluate_withRoot (session : Session κ α) (root : BuiltParser κ α) (input : Text)
    (index : Nat) :
    (session.withRoot root).evaluate input index =
      root.overRules.parseWith (session.answer input (session.depthFor input)) input index := by
  unfold Session.evaluate
  rw [session.answer_withRoot root]
  rfl

/-- Around a root whose matches are slices, a separator that is the empty text makes no
difference. -/
theorem Session.evaluate_separated_nothing (bounds : Bounds)
    (hslices : ∀ place outcome, session.evaluate input place = .ok outcome →
      outcome.Sliced input place) :
    (session.withRoot (.separated session.root (.literal []) bounds)).evaluate input index =
      (session.withRoot (.repetition session.root bounds)).evaluate input index := by
  rw [Session.evaluate_withRoot, Session.evaluate_withRoot]
  simp only [Parser.overRules, Parser.rename, Parser.parseWith]
  have hrounds : separatedRounds (session.evaluate input)
        (fun place => pure (matchLiteral input [] place)) bounds (roundsWithin input index) index 0
        [] =
      rounds (session.evaluate input) bounds (roundsWithin input index) index 0 [] :=
    separatedRounds_nothing hslices fun hne => absurd rfl hne
  exact congrArg (· >>= _) hrounds

/-- An option goes by what its root evaluates to. -/
theorem Session.evaluate_option (session : Session κ α) (input : Text) (index : Nat) :
    (session.withRoot (.option session.root)).evaluate input index =
      (session.evaluate input index).map (orNothing input index) := by
  rw [Session.evaluate_withRoot]
  simp only [Parser.overRules, Parser.rename, Parser.parseWith]
  show (session.evaluate input index >>= _) = _
  cases session.evaluate input index with
  | error stop => rfl
  | ok outcome => rfl

/-- Around a root whose matches are slices, a loop of at most one round is an option. -/
theorem Session.evaluate_once
    (hslices : ∀ place outcome, session.evaluate input place = .ok outcome →
      outcome.Sliced input place) :
    (session.withRoot (.repetition session.root ⟨0, some 1⟩)).evaluate input index =
      ((session.withRoot (.option session.root)).evaluate input index).map
        (mapOutcome Value.optionToList) := by
  rw [Session.evaluate_option, Session.evaluate_withRoot]
  simp only [Parser.overRules, Parser.rename, Parser.parseWith]
  show (rounds (session.evaluate input) _ (input.size - index + 1) index 0 [] >>= _) = _
  rw [rounds_once]
  cases hround : session.evaluate input index with
  | error stop => rfl
  | ok outcome => exact congrArg Except.ok (finishRounds_once _ (hslices index outcome hround))

end Roots

/-! ## §3. Construction -/

/-- The wrapped parser is built from what its body is built to, with a check of bounds behind it. -/
def BuiltAround (wrap : Template κ α → Template κ α) (finish : BuiltParser κ α → BuiltParser κ α)
    (bounds : Bounds) : Prop :=
  ∀ shared body, build shared (wrap body) =
    build shared body >>= fun built => bounds.check >>= fun _ => pure (finish built)

theorem builtAround_repetition (bounds : Bounds) :
    BuiltAround (.repetition · bounds : Template κ α → Template κ α) (.repetition · bounds)
      bounds :=
  fun _ _ => rfl

/-- A separator that is a text makes no cells. -/
theorem builtAround_separated (text : Text) (bounds : Bounds) :
    BuiltAround (.separated · (.literal text) bounds : Template κ α → Template κ α)
      (.separated · (.literal text) bounds) bounds := by
  intro shared body
  simp only [build, pure_bind]

/-- The bounds of an option are never checked, and would go through. -/
theorem builtAround_option :
    BuiltAround (.option : Template κ α → Template κ α) .option ⟨0, some 1⟩ := by
  intro shared body
  have hcheck : (⟨0, some 1⟩ : Bounds).check = pure () := rfl
  simp only [build, hcheck, pure_bind]

section Construction

variable {grammar : Grammar κ α} {wrap wrap' : Template κ α → Template κ α}
  {finish finish' : BuiltParser κ α → BuiltParser κ α} {bounds : Bounds}

/-- A grammar whose root is built from another's root, with a check of bounds behind it, starts as
the other one does where the check goes through. -/
theorem Grammar.start_around (hbuild : BuiltAround wrap finish bounds) :
    (grammar.around wrap).start = grammar.start >>= fun built =>
      (bounds.check.run built.2.cells).map fun checked =>
        ({ built.1 with root := finish built.1.root }, { cells := checked.2 }) := by
  rw [Grammar.start_eq_map, Grammar.start_eq_map]
  show Except.map _ ((buildShared [] grammar.shared).run 0 >>= fun shared =>
    (build shared.1 (wrap grammar.root) >>= fun root => pure (shared.1, root)).run shared.2) =
    Except.map _ ((buildShared [] grammar.shared).run 0 >>= fun shared =>
      (build shared.1 grammar.root).run shared.2 >>= fun root => pure _) >>= _
  rcases (buildShared [] grammar.shared).run 0 with stop | ⟨shared, m⟩
  · rfl
  · have hroot := hbuild shared grammar.root
    show Except.map _ ((build shared (wrap grammar.root) >>= fun root => pure _).run m) = _
    rw [hroot]
    show Except.map _ (((build shared grammar.root).run m >>= fun body =>
      bounds.check.run body.2 >>= fun checked => pure _) >>= fun root => pure _) =
      Except.map _ ((build shared grammar.root).run m >>= fun root => pure _) >>= _
    rcases (build shared grammar.root).run m with stop | ⟨body, n⟩
    · rfl
    · show Except.map _ ((bounds.check.run n >>= fun checked => pure _) >>= fun root => pure _) =
        (bounds.check.run n).map _
      rcases bounds.check.run n with stop | checked
      · rfl
      · rfl

/-- Two grammars around one start alike, if their roots are built with the same check: with as many
cells, or with the same reason not to. -/
theorem Grammar.start_alike
    (hbuild : BuiltAround wrap finish bounds)
    (hbuild' : BuiltAround wrap' finish' bounds) :
    (grammar.around wrap).start.map Prod.snd = (grammar.around wrap').start.map Prod.snd := by
  rw [Grammar.start_around hbuild, Grammar.start_around hbuild']
  cases grammar.start with
  | error stop => rfl
  | ok built =>
    show Except.map _ ((bounds.check.run built.2.cells).map _) =
      Except.map _ ((bounds.check.run built.2.cells).map _)
    cases bounds.check.run built.2.cells with
    | error stop => rfl
    | ok checked => rfl

/-- A session of a grammar around another one runs the other's root inside something else. -/
theorem Grammar.exists_of_start_around {session : Session κ α} {store : Store κ α}
    (hbuild : BuiltAround wrap finish bounds)
    (h : (grammar.around wrap).start = .ok (session, store)) :
    ∃ inner first, grammar.start = .ok (inner, first) ∧
      session = inner.withRoot (finish inner.root) := by
  rw [Grammar.start_around hbuild] at h
  cases hstart : grammar.start with
  | error stop =>
    rw [hstart] at h
    cases h
  | ok built =>
    rw [hstart] at h
    have hchecked : (bounds.check.run built.2.cells).map _ = .ok (session, store) := h
    cases hcheck : bounds.check.run built.2.cells with
    | error stop =>
      rw [hcheck] at hchecked
      cases hchecked
    | ok checked =>
      rw [hcheck] at hchecked
      cases hchecked
      exact ⟨built.1, built.2, rfl, rfl⟩

end Construction

/-! ## §4. Runs -/

/-- What sessions of a grammar around another one answer is what they evaluate to, in terms of a
session of the other one, whose matches are slices. -/
theorem Grammar.Reaches.exists_evaluate [DecidableEq κ] {grammar : Grammar κ α}
    {wrap : Template κ α → Template κ α} {finish : BuiltParser κ α → BuiltParser κ α}
    {bounds : Bounds} {session : Session κ α} {store : Store κ α}
    (hbuild : BuiltAround wrap finish bounds)
    (h : (grammar.around wrap).Reaches session store) :
    ∃ inner first, grammar.start = .ok (inner, first) ∧
      (∀ input place outcome, inner.evaluate input place = .ok outcome →
        outcome.Sliced input place) ∧
      ∀ input index, (session.run store input index).1 =
        (inner.withRoot (finish inner.root)).evaluate input index := by
  obtain ⟨_, hstart⟩ := h.exists_start
  obtain ⟨inner, first, hinner, rfl⟩ := Grammar.exists_of_start_around hbuild hstart
  have hreach : grammar.Reaches inner first := .start hinner
  refine ⟨inner, first, hinner, fun input place outcome houtcome => ?_, fun input index => ?_⟩
  · rw [← hreach.sound.run_eq_evaluate] at houtcome
    exact (hreach.run_eq_ok_iff.1 houtcome).sliced
  · exact h.sound.run_eq_evaluate input index

/-- **Two loops and an option.** A parser that is repeated with the empty text for a separator
answers as the parser that is repeated without one, whatever the parser and the bounds: both can be
built or neither, for the same reason, and the runs of both have the same result, wherever they
start. And a parser that is repeated once at the most answers as an option: with the empty list
where the option has nothing, with the list of one value where the option has that value, and
otherwise with the same failure or stop. -/
theorem Grammar.loops_agree [DecidableEq κ] (grammar : Grammar κ α) (bounds : Bounds) :
    ((grammar.around (.separated · (.literal []) bounds)).start.map Prod.snd =
        (grammar.around (.repetition · bounds)).start.map Prod.snd ∧
      ∀ separated store repeated store',
        (grammar.around (.separated · (.literal []) bounds)).Reaches separated store →
        (grammar.around (.repetition · bounds)).Reaches repeated store' →
        ∀ input index,
          (separated.run store input index).1 = (repeated.run store' input index).1) ∧
    ((grammar.around (.repetition · ⟨0, some 1⟩)).start.map Prod.snd =
        (grammar.around .option).start.map Prod.snd ∧
      ∀ once store optional store',
        (grammar.around (.repetition · ⟨0, some 1⟩)).Reaches once store →
        (grammar.around .option).Reaches optional store' →
        ∀ input index,
          (once.run store input index).1 =
            ((optional.run store' input index).1).map (mapOutcome Value.optionToList) ∧
          ∀ success, (optional.run store' input index).1 = .ok (.success success) →
            success.value = .none ∨ ∃ value, success.value = .some value) := by
  have hseparated := builtAround_separated (κ := κ) (α := α) [] bounds
  have hrepeated := builtAround_repetition (κ := κ) (α := α) bounds
  have honce := builtAround_repetition (κ := κ) (α := α) ⟨0, some 1⟩
  refine ⟨⟨Grammar.start_alike hseparated hrepeated, ?_⟩,
    Grammar.start_alike honce builtAround_option, ?_⟩
  · intro separated store repeated store' h h' input index
    obtain ⟨inner, first, hstart, hslices, hevaluate⟩ := h.exists_evaluate hseparated
    obtain ⟨inner', first', hstart', _, hevaluate'⟩ := h'.exists_evaluate hrepeated
    cases hstart.symm.trans hstart'
    rw [hevaluate, hevaluate']
    exact Session.evaluate_separated_nothing bounds (hslices input)
  · intro once store optional store' h h' input index
    obtain ⟨inner, first, hstart, hslices, hevaluate⟩ := h.exists_evaluate honce
    obtain ⟨inner', first', hstart', _, hevaluate'⟩ := h'.exists_evaluate builtAround_option
    cases hstart.symm.trans hstart'
    rw [hevaluate, hevaluate']
    refine ⟨Session.evaluate_once (hslices input), fun success hsuccess => ?_⟩
    rw [Session.evaluate_option] at hsuccess
    cases houtcome : inner.evaluate input index with
    | error stop =>
      rw [houtcome] at hsuccess
      cases hsuccess
    | ok outcome =>
      rw [houtcome] at hsuccess
      exact orNothing_value (Except.ok.inj hsuccess)

/-- Two marks in a row, of which the second is met once. Past the end, both the loop and the option
fail. -/
theorem loops_agree_marks :
    (mark.around (.separated · (.literal []) .many)).Reaches
        (markAround (.separated (.literal ['x']) (.literal []) .many)) ⟨0, [], []⟩ ∧
      (mark.around (.repetition · .many)).Reaches
        (markAround (.repetition (.literal ['x']) .many)) ⟨0, [], []⟩ ∧
      (mark.around (.repetition · ⟨0, some 1⟩)).Reaches
        (markAround (.repetition (.literal ['x']) ⟨0, some 1⟩)) ⟨0, [], []⟩ ∧
      (mark.around .option).Reaches (markAround (.option (.literal ['x']))) ⟨0, [], []⟩ ∧
      ((markAround (.separated (.literal ['x']) (.literal []) .many)).run ⟨0, [], []⟩
        ['x', 'x'] 0).1 = .ok (.success ⟨['x', 'x'], 0, .list [.text ['x'], .text ['x']]⟩) ∧
      ((markAround (.repetition (.literal ['x']) ⟨0, some 1⟩)).run ⟨0, [], []⟩ ['x', 'x'] 1).1 =
        .ok (.success ⟨['x'], 1, .list [.text ['x']]⟩) ∧
      ((markAround (.repetition (.literal ['x']) ⟨0, some 1⟩)).run ⟨0, [], []⟩ ['x', 'x'] 3).1 =
        .ok (.failure (.invalidIndex 3)) := by
  have hseparated : (mark.around (.separated · (.literal []) .many)).Reaches
      (markAround (.separated (.literal ['x']) (.literal []) .many)) ⟨0, [], []⟩ := .start rfl
  have hrepeated : (mark.around (.repetition · .many)).Reaches
      (markAround (.repetition (.literal ['x']) .many)) ⟨0, [], []⟩ := .start rfl
  have honce : (mark.around (.repetition · ⟨0, some 1⟩)).Reaches
      (markAround (.repetition (.literal ['x']) ⟨0, some 1⟩)) ⟨0, [], []⟩ := .start rfl
  have hoption : (mark.around .option).Reaches (markAround (.option (.literal ['x'])))
      ⟨0, [], []⟩ := .start rfl
  obtain ⟨⟨_, hloops⟩, _, honces⟩ := Grammar.loops_agree mark .many
  refine ⟨hseparated, hrepeated, honce, hoption, ?_, ?_, ?_⟩
  · rw [hloops _ _ _ _ hseparated hrepeated]
    rfl
  · rw [(honces _ _ _ _ honce hoption _ _).1]
    rfl
  · rw [(honces _ _ _ _ honce hoption _ _).1]
    rfl

end Backtrack
