import Backtrack.Proofs.Parser.Descent
import Backtrack.Proofs.Session.Adequacy

/-! # What runs come to

    Two properties of every run of every grammar, from every store that
    earlier runs left behind: its matches are slices of the input, and it has
    an outcome if no rule can reach itself at the index it was entered at.

    * `Grammar.Reaches.success_is_slice`: matches.
    * `Grammar.Reaches.exists_outcome`: outcomes. -/

namespace Backtrack

variable {κ α : Type} [DecidableEq κ] {grammar : Grammar κ α} {session : Session κ α}
  {store : Store κ α}

/-! ## §1. Balanced parentheses -/

/-- Balanced parentheses, over one rule that mentions itself. -/
def parentheses : Grammar Unit Unit where
  rules := [((), .repetition (.sequence (.literal ['('])
    (.sequence (.deferred (.rule ())) (.literal [')']))) ⟨0, none⟩)]
  root := .anchored (.deferred (.rule ()))

/-- The session that the parentheses start with. -/
def parenthesesSession : Session Unit Unit where
  rules := parentheses.rules
  shared := []
  root := .anchored (.deferred ⟨0, ()⟩)

/-! ## §2. Matches -/

/-- **A match is a slice of the input.** Whatever a grammar's runs have done before, and wherever
the next one starts: if it succeeds, then the match starts at the index asked for, it ends inside
the input, both ends are character boundaries, and its text is what stands between them. No offset
of an input that can be addressed overflows. -/
theorem Grammar.Reaches.success_is_slice (h : grammar.Reaches session store) {input : Text}
    {index : Nat} {success : Success (Value α)}
    (hrun : (session.run store input index).1 = .ok (.success success)) :
    success.index = index ∧ success.stop = index + success.text.size ∧
      input.isBoundary index = true ∧ input.isBoundary success.stop = true ∧
      success.stop ≤ input.size ∧ input.slice? index success.stop = some success.text ∧
      (input.size < 2 ^ 64 → success.bounded = .ok success) := by
  have hevaluates := h.run_eq_ok_iff.1 hrun
  have hslice : success.IsSlice input index := hevaluates.sliced
  obtain ⟨hindex, htext⟩ := hslice
  have hsize := hevaluates.stop_le_size
  refine ⟨hindex, ?_, Text.isBoundary_start_of_slice? htext, Text.isBoundary_stop_of_slice? htext,
    hsize, htext, ?_⟩
  · rw [← hindex]
    rfl
  · intro hlt
    exact if_pos (Nat.lt_of_le_of_lt hsize hlt)

/-- A pair of parentheses behind a character of two bytes, in the second run of a session. -/
theorem success_is_slice_of_parentheses :
    ∃ store, parentheses.Reaches parenthesesSession store ∧
      (parenthesesSession.run store ['é', '(', ')'] 2).1 =
        .ok (.success ⟨['(', ')'], 2, .list [.pair (.text ['('])
          (.pair (.list []) (.text [')']))]⟩) ∧
      Text.isBoundary ['é', '(', ')'] 2 = true ∧
      Text.slice? ['é', '(', ')'] 2 4 = some ['(', ')'] := by
  have hreach : parentheses.Reaches parenthesesSession
      (parenthesesSession.run ⟨1, [], []⟩ ['('] 0).2.1 := .run _ _ (.start rfl)
  have hrun : (parenthesesSession.run (parenthesesSession.run ⟨1, [], []⟩ ['('] 0).2.1
      ['é', '(', ')'] 2).1 = .ok (.success ⟨['(', ')'], 2, .list [.pair (.text ['('])
        (.pair (.list []) (.text [')']))]⟩) := rfl
  obtain ⟨_, _, hboundary, _, _, htext, _⟩ := hreach.success_is_slice hrun
  exact ⟨_, hreach, hrun, hboundary, htext⟩

/-! ## §3. Outcomes -/

/-- Every rule that is mentioned can be built. -/
def Session.Complete (session : Session κ α) : Prop :=
  session.parser.Complete session.rule? ∧
    ∀ name parser, session.rule? name = some parser → parser.Complete session.rule?

/-- No rule can reach itself at the index it was entered at. -/
def Session.Acyclic (session : Session κ α) : Prop :=
  ∀ name, ¬ Relation.TransGen (Parser.RuleTries session.rule?) name name

/-- A run of a session without such rules has an outcome, and it is the one that can be derived. -/
theorem Grammar.Reaches.exists_outcome (h : grammar.Reaches session store)
    (hcomplete : session.Complete) (hacyclic : session.Acyclic) (input : Text) (index : Nat) :
    ∃ outcome, (session.run store input index).1 = .ok outcome ∧
      Evaluates session.rule? input ⊤ (.parse session.parser index) outcome := by
  -- Only finitely many names have a rule, so what was not asked yet can shrink only so often.
  have hfinite : {name | (session.rule? name).isSome}.Finite := by
    apply Set.Finite.subset (List.finite_toSet (session.rules.map Prod.fst))
    intro name hname
    obtain ⟨parser, hrule⟩ := Option.isSome_iff_exists.1 hname
    exact Session.mem_of_rule?_eq_some hrule
  obtain ⟨outcome, hevaluates⟩ :=
    Parser.answers hfinite hcomplete.2 hacyclic hcomplete.1 input index
  exact ⟨outcome, h.run_eq_ok_iff.2 hevaluates, hevaluates⟩

end Backtrack
