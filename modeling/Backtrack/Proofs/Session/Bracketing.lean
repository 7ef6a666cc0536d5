import Backtrack.Proofs.Parser.Bracketing
import Backtrack.Proofs.Session.Templates

/-! # Sequences, bracketed one way or another

    A grammar may write the steps of a sequence with any brackets around
    them. What it builds runs the same steps, has the same written form, and
    matches and fails alike. Values are bracketed as the sequence is, and
    hold the same steps in the same order.

    * `Builds.exists_of_fold`: what is built of a bracketed sequence.
    * `Value.steps_chain`: brackets to the left are taken off again.
    * `Grammar.bracketing_irrelevant`: any two ways to bracket the steps. -/

namespace Backtrack

variable {κ α : Type}

/-! ## §1. Bracketed templates -/

section Builds

variable {shared : SharedParsers κ α} {t : Bracketing (Template κ α)} {parser : Parser κ α}

/-- A bracketed sequence is built step by step, and keeps its brackets. -/
theorem Builds.exists_of_fold (h : Builds shared (t.fold .sequence) parser) :
    ∃ built : Bracketing (Parser κ α), built.shape = t.shape ∧ parser = built.fold .sequence ∧
      List.Forall₂ (Builds shared) t.steps built.steps := by
  induction t generalizing parser with
  | step template => exact ⟨.step parser, rfl, rfl, .cons h .nil⟩
  | pair first next ihfirst ihnext =>
    obtain ⟨front, back, hfront, hback, rfl⟩ := h.exists_of_sequence
    obtain ⟨u, hu, rfl, hfirst⟩ := ihfirst hfront
    obtain ⟨v, hv, rfl, hnext⟩ := ihnext hback
    refine ⟨.pair u v, ?_, rfl, List.rel_append hfirst hnext⟩
    show Bracketing.pair u.shape v.shape = .pair first.shape next.shape
    rw [hu, hv]

theorem buildable_fold_iff :
    Buildable shared (t.fold .sequence) ↔ ∀ template ∈ t.steps, Buildable shared template := by
  induction t with
  | step template => exact List.forall_mem_singleton.symm
  | pair first next ihfirst ihnext =>
    show Buildable shared (.sequence _ _) ↔ ∀ template ∈ first.steps ++ next.steps, _
    rw [buildable_sequence_iff, List.forall_mem_append, ihfirst, ihnext]

end Builds

/-! ## §2. Brackets to the left -/

namespace Bracketing

variable {σ τ : Type}

theorem shape_left (first : σ) (rest : List σ) :
    (left first rest).shape = left () (List.replicate rest.length ()) := by
  unfold shape
  rw [map_left, List.map_const']

/-- Brackets to the left are told by their number. -/
theorem exists_left_of_shape {t : Bracketing σ} {x : τ} {xs : List τ}
    (hshape : t.shape = (left x xs).shape) :
    ∃ first rest, t = left first rest ∧ rest.length = xs.length := by
  obtain ⟨first, rest, hsteps⟩ := List.exists_cons_of_ne_nil t.steps_ne_nil
  have hlength : rest.length = xs.length := by
    have hboth := length_steps_of_shape hshape
    rw [hsteps, steps_left] at hboth
    exact Nat.succ.inj hboth
  refine ⟨first, rest, eq_of_shape_of_steps ?_ ?_, hlength⟩
  · rw [hshape, shape_left, shape_left, hlength]
  · rw [hsteps, steps_left]

end Bracketing

theorem Value.unchain_chain (first : Value α) (rest acc : List (Value α)) :
    unchain acc rest.length (chain first rest) = first :: rest ++ acc := by
  induction rest using List.reverseRecOn generalizing acc with
  | nil => rfl
  | append_singleton rest last ih =>
    have hchain : chain first (rest ++ [last]) = pair (chain first rest) last :=
      List.foldl_append
    rw [hchain, List.length_append]
    show unchain (last :: acc) rest.length (chain first rest) = _
    rw [ih]
    simp

/-- The steps of a chain are what was chained. -/
theorem Value.steps_chain (first : Value α) (rest : List (Value α)) :
    (chain first rest).steps rest.length = first :: rest := by
  unfold steps
  rw [unchain_chain, List.append_nil]

/-- From a value that is bracketed to the left its steps can be taken off. -/
theorem Bracketing.steps_fold_pair {σ : Type} {values : Bracketing (Value α)} {x : σ} {xs : List σ}
    (hshape : values.shape = (left x xs).shape) :
    (values.fold .pair).steps xs.length = values.steps := by
  obtain ⟨first, rest, rfl, hlength⟩ := exists_left_of_shape hshape
  have hchain : (left first rest).fold .pair = Value.chain first rest :=
    fold_left Value.pair first rest
  rw [hchain, ← hlength, steps_left]
  exact Value.steps_chain first rest

/-! ## §3. Runs -/

section Runs

variable [DecidableEq κ] {grammar : Grammar κ α} {session session' : Session κ α}
  {store store' : Store κ α} {input : Text} {index stop : Nat}
  {wrap : Template κ α → Template κ α} {t t' : Bracketing (Template κ α)}
  {success : Success (Value α)} {failure : Failure}

/-- A session of a bracketed sequence runs one. -/
theorem Grammar.Reaches.exists_bracketing
    (h : (grammar.around fun _ => t.fold .sequence).Reaches session store) :
    ∃ built : Bracketing (Parser κ α), built.shape = t.shape ∧
      session.parser = built.fold .sequence ∧
      List.Forall₂ (Builds session.shared) t.steps built.steps := by
  have hbuilds : Builds session.shared (t.fold .sequence) session.parser := h.builds
  exact hbuilds.exists_of_fold

/-- Sessions of two sequences of the same steps run the same steps. -/
theorem Grammar.Reaches.exists_bracketings
    (h : (grammar.around fun _ => t.fold .sequence).Reaches session store)
    (h' : (grammar.around fun _ => t'.fold .sequence).Reaches session' store')
    (hsteps : t.steps = t'.steps) :
    ∃ built built' : Bracketing (Parser κ α), built.shape = t.shape ∧ built'.shape = t'.shape ∧
      session.parser = built.fold .sequence ∧ session'.parser = built'.fold .sequence ∧
      List.Forall₂ (Builds session.shared) t.steps built.steps ∧ built.steps = built'.steps := by
  obtain ⟨built, hshape, hparser, hbuilds⟩ := h.exists_bracketing
  obtain ⟨built', hshape', hparser', hbuilds'⟩ := h'.exists_bracketing
  obtain ⟨hshared, _⟩ := h.shared_eq h'
  rw [hshared, ← hsteps] at hbuilds'
  -- A template is built in one way only from the same shared parsers.
  have hsame : built.steps = built'.steps :=
    List.right_unique_forall₂' (fun _ _ _ hfirst hnext => hfirst.unique hnext) hbuilds hbuilds'
  exact ⟨built, built', hshape, hshape', hparser, hparser', hbuilds, hsame⟩

/-- What the built steps match in turn, the written ones do. -/
theorem Grammar.Reaches.matchInTurn (h : (grammar.around wrap).Reaches session store)
    {templates : List (Template κ α)} {parsers : List (Parser κ α)}
    (hbuilds : List.Forall₂ (Builds session.shared) templates parsers)
    {matched : List (Success (Value α))}
    (hturn : MatchInTurn (fun parser => parser.AnswersAt session.rule? input) index parsers matched
      stop) :
    MatchInTurn (fun template place => grammar.Answers input place template) index templates matched
      stop := by
  refine hturn.of_forall₂ (hbuilds.flip.imp ?_)
  intro parser template hbuilt place outcome hanswer
  exact (h.answers_iff_of_builds hbuilt).2 hanswer

/-- A run of a bracketed sequence that succeeds matches its steps in turn. -/
theorem Grammar.Reaches.exists_matchInTurn
    (h : (grammar.around fun _ => t.fold .sequence).Reaches session store)
    (hrun : (session.run store input index).1 = .ok (.success success)) :
    ∃ matched : Bracketing (Success (Value α)), matched.shape = t.shape ∧
      success = matched.together index ∧
      MatchInTurn (fun template place => grammar.Answers input place template) index t.steps
        matched.steps success.stop := by
  obtain ⟨built, hshape, hparser, hbuilds⟩ := h.exists_bracketing
  have hanswer := h.run_eq_ok_iff.1 hrun
  rw [hparser] at hanswer
  obtain ⟨matched, hmatched, hsuccess, hturn⟩ := Bracketing.exists_of_answersAt hanswer
  exact ⟨matched, hmatched.trans hshape, hsuccess, h.matchInTurn hbuilds hturn⟩

section Rebracketed

variable (h : (grammar.around fun _ => t.fold .sequence).Reaches session store)
  (h' : (grammar.around fun _ => t'.fold .sequence).Reaches session' store')
  (hsteps : t.steps = t'.steps)
include h h' hsteps

/-- Brackets do not show in the written form. -/
theorem Grammar.Reaches.render_rebracketed : session.root.render = session'.root.render := by
  obtain ⟨built, built', _, _, hparser, hparser', _, hsame⟩ := h.exists_bracketings h' hsteps
  have hroot (session : Session κ α) : session.parser.render = session.root.render :=
    Parser.render_rename Cell.rule session.root
  rw [← hroot session, ← hroot session', hparser, hparser', Bracketing.render_fold,
    Bracketing.render_fold]
  exact Bracketing.fold_tilde_congr _ hsame

/-- What one way to bracket the steps matches, the other one does with its own brackets. -/
theorem Grammar.Reaches.exists_run_rebracketed
    (hrun : (session.run store input index).1 = .ok (.success success)) :
    ∃ matched matched' : Bracketing (Success (Value α)), matched.shape = t.shape ∧
      matched'.shape = t'.shape ∧ matched.steps = matched'.steps ∧
      success = matched.together index ∧
      (session'.run store' input index).1 = .ok (.success (matched'.together index)) := by
  obtain ⟨built, built', hshape, hshape', hparser, hparser', _, hsame⟩ :=
    h.exists_bracketings h' hsteps
  obtain ⟨_, hrules⟩ := h.shared_eq h'
  have hanswer := h.run_eq_ok_iff.1 hrun
  rw [hparser] at hanswer
  obtain ⟨matched, hmatched, hsuccess, hturn⟩ := Bracketing.exists_of_answersAt hanswer
  rw [hsame] at hturn
  -- The same matches, with the brackets of the other sequence around them.
  obtain ⟨matched', hmatched', hsteps'⟩ := built'.exists_of_length hturn.length_eq
  refine ⟨matched, matched', hmatched.trans hshape, hmatched'.trans hshape', hsteps'.symm,
    hsuccess, ?_⟩
  rw [h'.run_eq_ok_iff, hparser', hrules]
  rw [← hsteps'] at hturn
  exact Bracketing.answersAt_together hmatched' hturn

/-- Either way the same step fails. -/
theorem Grammar.Reaches.run_failure_rebracketed
    (hrun : (session.run store input index).1 = .ok (.failure failure)) :
    (session'.run store' input index).1 = .ok (.failure failure) := by
  obtain ⟨built, built', _, _, hparser, hparser', _, hsame⟩ := h.exists_bracketings h' hsteps
  obtain ⟨_, hrules⟩ := h.shared_eq h'
  have hanswer := h.run_eq_ok_iff.1 hrun
  rw [hparser] at hanswer
  have hfails := Bracketing.answersAt_failure_iff.1 hanswer
  rw [hsame] at hfails
  rw [h'.run_eq_ok_iff, hparser', hrules]
  exact Bracketing.answersAt_failure_iff.2 hfails

/-- Both succeed, or neither does. -/
theorem Grammar.Reaches.exists_success_rebracketed_iff :
    (∃ success, (session.run store input index).1 = .ok (.success success)) ↔
      ∃ success', (session'.run store' input index).1 = .ok (.success success') := by
  constructor
  · intro hruns
    obtain ⟨success, hrun⟩ := hruns
    obtain ⟨_, _, _, _, _, _, hrun'⟩ := h.exists_run_rebracketed h' hsteps hrun
    exact ⟨_, hrun'⟩
  · intro hruns
    obtain ⟨success', hrun'⟩ := hruns
    obtain ⟨_, _, _, _, _, _, hrun⟩ := h'.exists_run_rebracketed h hsteps.symm hrun'
    exact ⟨_, hrun⟩

/-- What both match is the same text, with values of the same steps. -/
theorem Grammar.Reaches.exists_values_rebracketed {success' : Success (Value α)}
    (hrun : (session.run store input index).1 = .ok (.success success))
    (hrun' : (session'.run store' input index).1 = .ok (.success success')) :
    success.text = success'.text ∧ success.index = success'.index ∧
      ∃ values values' : Bracketing (Value α), values.shape = t.shape ∧
        values'.shape = t'.shape ∧ values.steps = values'.steps ∧
        success.value = values.fold .pair ∧ success'.value = values'.fold .pair := by
  obtain ⟨matched, matched', hshape, hshape', hmatched, rfl, hother⟩ :=
    h.exists_run_rebracketed h' hsteps hrun
  obtain rfl := Outcome.success.inj (Except.ok.inj (hother.symm.trans hrun'))
  refine ⟨?_, rfl, matched.map Success.value, matched'.map Success.value, ?_, ?_, ?_, rfl, rfl⟩
  · show (matched.steps.map Success.text).flatten = (matched'.steps.map Success.text).flatten
    rw [hmatched]
  · rw [Bracketing.shape_map, hshape]
  · rw [Bracketing.shape_map, hshape']
  · rw [Bracketing.steps_map, Bracketing.steps_map, hmatched]

end Rebracketed

/-- From what a chain of parsers matches its steps can be taken off, which are matched in turn. -/
theorem Grammar.Reaches.exists_steps_of_chain {first : Template κ α} {rest : List (Template κ α)}
    (h : (grammar.around fun _ => Parser.sequenceAll first rest).Reaches session store)
    (hrun : (session.run store input index).1 = .ok (.success success)) :
    ∃ matched, MatchInTurn (fun template place => grammar.Answers input place template) index
        (first :: rest) matched success.stop ∧
      success.value.steps rest.length = valuesOf matched := by
  have hleft : Parser.sequenceAll first rest = (Bracketing.left first rest).fold .sequence :=
    (Bracketing.fold_left Parser.sequence first rest).symm
  rw [hleft] at h
  obtain ⟨matched, hshape, rfl, hturn⟩ := h.exists_matchInTurn hrun
  rw [Bracketing.steps_left] at hturn
  refine ⟨matched.steps, hturn, ?_⟩
  have hvalues : (matched.map Success.value).shape = (Bracketing.left first rest).shape := by
    rw [Bracketing.shape_map, hshape]
  show ((matched.map Success.value).fold .pair).steps rest.length = _
  rw [Bracketing.steps_fold_pair hvalues]
  exact Bracketing.steps_map Success.value matched

/-- **Brackets are of no consequence.** Take two sequences that bracket the same steps in any two
ways. They are built alike and have the same written form. On every input and at every index,
whatever has been run before, both fail with the same failure, or both succeed with the same text
and with the values of the steps in order, each bracketed in its own way, and these values show no
difference. With the brackets to the left, the steps that are taken off a value again are those of
the sequence, each of them matched where the one before it stopped. -/
theorem Grammar.bracketing_irrelevant (grammar : Grammar κ α) {first : Template κ α}
    {rest : List (Template κ α)} (hsteps : t.steps = first :: rest)
    (hsteps' : t'.steps = first :: rest) :
    ((grammar.around fun _ => t.fold .sequence).Starts ↔
      (grammar.around fun _ => t'.fold .sequence).Starts) ∧
    (∀ session store session' store',
      (grammar.around fun _ => t.fold .sequence).Reaches session store →
      (grammar.around fun _ => t'.fold .sequence).Reaches session' store' →
      session.root.render = session'.root.render ∧ ∀ input index,
        (∀ failure, (session.run store input index).1 = .ok (.failure failure) ↔
          (session'.run store' input index).1 = .ok (.failure failure)) ∧
        ((∃ success, (session.run store input index).1 = .ok (.success success)) ↔
          ∃ success', (session'.run store' input index).1 = .ok (.success success')) ∧
        ∀ success success', (session.run store input index).1 = .ok (.success success) →
          (session'.run store' input index).1 = .ok (.success success') →
          success.text = success'.text ∧ success.index = success'.index ∧
          (∃ values values' : Bracketing (Value α), values.shape = t.shape ∧
            values'.shape = t'.shape ∧ values.steps = values'.steps ∧
            success.value = values.fold .pair ∧ success'.value = values'.fold .pair) ∧
          ∀ atomText, success.value.inspect atomText = success'.value.inspect atomText ∧
            success.value.display atomText = success'.value.display atomText) ∧
    ∀ session store, (grammar.around fun _ => Parser.sequenceAll first rest).Reaches session store →
      ∀ input index success, (session.run store input index).1 = .ok (.success success) →
        ∃ matched, MatchInTurn (fun template place => grammar.Answers input place template) index
          (first :: rest) matched success.stop ∧
          success.value.steps rest.length = valuesOf matched := by
  have hsame : t.steps = t'.steps := hsteps.trans hsteps'.symm
  refine ⟨?_, ?_, ?_⟩
  · refine Grammar.starts_iff_of_buildable fun shared => ?_
    rw [buildable_fold_iff, buildable_fold_iff, hsame]
  · intro session store session' store' h h'
    refine ⟨h.render_rebracketed h' hsame, fun input index => ⟨fun failure => ?_,
      h.exists_success_rebracketed_iff h' hsame, fun success success' hrun hrun' => ?_⟩⟩
    · exact ⟨h.run_failure_rebracketed h' hsame, h'.run_failure_rebracketed h hsame.symm⟩
    · obtain ⟨htext, hindex, values, values', hshape, hshape', hvalues, hvalue, hvalue'⟩ :=
        h.exists_values_rebracketed h' hsame hrun hrun'
      refine ⟨htext, hindex, ⟨values, values', hshape, hshape', hvalues, hvalue, hvalue'⟩, ?_⟩
      intro atomText
      rw [hvalue, hvalue']
      exact ⟨Bracketing.inspect_fold_congr atomText hvalues,
        Bracketing.display_fold_congr atomText hvalues⟩
  · intro session store h input index success hrun
    exact h.exists_steps_of_chain hrun

end Runs

/-- A letter between others that may be left out. -/
def spelling : Grammar Unit Unit where
  rules := [((), .option (.literal ['b']))]
  root := .literal ['a']

/-- Three steps, of which the last two belong together. -/
def spellingRight : Bracketing (Template Unit Unit) :=
  .pair (.step (.literal ['a'])) (.pair (.step (.deferred (.rule ()))) (.step (.literal ['c'])))

/-- Both ways to bracket them match the same text, and their values show the same. -/
theorem bracketing_irrelevant_spelling :
    ∃ session store session' store',
      (spelling.around fun _ => (Bracketing.left (.literal ['a'])
        [.deferred (.rule ()), .literal ['c']]).fold .sequence).Reaches session store ∧
      (spelling.around fun _ => spellingRight.fold .sequence).Reaches session' store' ∧
      session.root.render = session'.root.render ∧
      ∃ success success', (session.run store ['a', 'b', 'c'] 0).1 = .ok (.success success) ∧
        (session'.run store' ['a', 'b', 'c'] 0).1 = .ok (.success success') ∧
        success.text = success'.text ∧
        success.value.inspect (fun _ => "") = success'.value.inspect (fun _ => "") ∧
        ∃ matched : List (Success (Value Unit)), success.value.steps 2 = valuesOf matched := by
  have hsteps : (Bracketing.left (.literal ['a']) [.deferred (.rule ()), .literal ['c']] :
      Bracketing (Template Unit Unit)).steps =
        [.literal ['a'], .deferred (.rule ()), .literal ['c']] := rfl
  have hleft : (spelling.around fun _ => (Bracketing.left (.literal ['a'])
      [.deferred (.rule ()), .literal ['c']]).fold .sequence).Reaches
      ⟨spelling.rules, [], .sequence (.sequence (.literal ['a']) (.deferred ⟨0, ()⟩))
        (.literal ['c'])⟩ ⟨1, [], []⟩ := .start rfl
  have hright : (spelling.around fun _ => spellingRight.fold .sequence).Reaches
      ⟨spelling.rules, [], .sequence (.literal ['a']) (.sequence (.deferred ⟨0, ()⟩)
        (.literal ['c']))⟩ ⟨1, [], []⟩ := .start rfl
  obtain ⟨_, hboth, hchain⟩ := spelling.bracketing_irrelevant hsteps
    (show spellingRight.steps = _ from rfl)
  obtain ⟨hrender, hruns⟩ := hboth _ _ _ _ hleft hright
  obtain ⟨_, _, hsame⟩ := hruns ['a', 'b', 'c'] 0
  obtain ⟨htext, _, _, hshown⟩ := hsame _ _ rfl rfl
  obtain ⟨matched, _, hmatched⟩ := hchain _ _ hleft ['a', 'b', 'c'] 0 _ rfl
  exact ⟨_, _, _, _, hleft, hright, hrender, _, _, rfl, rfl, htext, (hshown _).1, matched, hmatched⟩

end Backtrack
