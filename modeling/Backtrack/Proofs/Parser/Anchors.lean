import Backtrack.Proofs.Parser.Faults

/-! # Parsers without anchors

    Only an anchor says that the input should have ended. Where none is among
    the nodes that a parser can run, no failure says so, and a choice finds
    nothing to promote: it fails with the list of its alternatives, whatever
    became of them inside.

    * `Evaluates.kind_ne_termination`: failures without an anchor.
    * `Evaluates.eq_noAlternative`: the failure of a choice. -/

namespace Backtrack

variable {ρ α : Type}

/-! ## §1. Trees without anchors -/

mutual

/-- No anchor stands in the parser, those of the rules it mentions left out. -/
def Parser.anchorless : Parser ρ α → Bool
  | .literal _ => true
  | .pattern _ => true
  | .sequence first next => first.anchorless && next.anchorless
  | .choice alternatives => Parser.anchorlessAll alternatives
  | .repetition body _ => body.anchorless
  | .separated body separator _ => body.anchorless && separator.anchorless
  | .option body => body.anchorless
  | .negation body => body.anchorless
  | .anchored _ => false
  | .mapped body _ => body.anchorless
  | .converted body _ => body.anchorless
  | .deferred _ => true

/-- No anchor stands in any of the parsers. -/
def Parser.anchorlessAll : List (Parser ρ α) → Bool
  | [] => true
  | parser :: rest => parser.anchorless && Parser.anchorlessAll rest

end

theorem Parser.anchorless_of_mem {parsers : List (Parser ρ α)} {parser : Parser ρ α}
    (h : Parser.anchorlessAll parsers = true) (hmem : parser ∈ parsers) :
    parser.anchorless = true := by
  induction parsers with
  | nil => cases hmem
  | cons first rest ih =>
    unfold Parser.anchorlessAll at h
    obtain ⟨hfirst, hrest⟩ := Bool.and_eq_true_iff.1 h
    rcases List.mem_cons.1 hmem with rfl | hmem
    · exact hfirst
    · exact ih hrest hmem

section Holds

variable {rules : ρ → Option (Parser ρ α)} {parser node : Parser ρ α}
  (hrules : ∀ name parser, rules name = some parser → parser.anchorless = true)
include hrules

/-- The parts of a parser without anchors have none, and the rules have none, either. -/
theorem Parser.Part.anchorless (hpart : Parser.Part rules parser node)
    (h : parser.anchorless = true) : node.anchorless = true := by
  cases hpart with
  | first => exact (Bool.and_eq_true_iff.1 h).1
  | next => exact (Bool.and_eq_true_iff.1 h).2
  | alternative hmem => exact Parser.anchorless_of_mem h hmem
  | body => exact (Bool.and_eq_true_iff.1 h).1
  | separator => exact (Bool.and_eq_true_iff.1 h).2
  | repetition | option | negation | mapped | converted => exact h
  | anchored => cases h
  | deferred hrule => exact hrules _ _ hrule

/-- No node that it can run is an anchor. -/
theorem Parser.anchorless_of_holds (h : parser.anchorless = true)
    (hholds : parser.Holds rules node) : node.anchorless = true := by
  induction hholds with
  | refl => exact h
  | tail _ hpart ih => exact hpart.anchorless hrules ih

end Holds

/-! ## §2. Failures without anchors -/

section Failures

variable {rules : ρ → Option (Parser ρ α)} {input : Text} {depth : ℕ∞} {parser : Parser ρ α}
  {alternatives all rest : List (Parser ρ α)} {termination : Option Failure} {index : Nat}
  {failure : Failure}

/-- Without an anchor, no failure is one to end. -/
theorem Evaluates.kind_ne_termination
    (h : Evaluates rules input depth (.parse parser index) (.failure failure))
    (hparser : parser.anchorless = true)
    (hrules : ∀ name parser, rules name = some parser → parser.anchorless = true) :
    failure.kind ≠ .termination := by
  intro hkind
  obtain ⟨node, hholds, hmakes⟩ := h.exists_maker hkind (by decide)
  obtain ⟨body, rfl⟩ := hmakes.exists_anchored
  have hnode := Parser.anchorless_of_holds hrules hparser hholds
  cases hnode

/-- A choice fails with a failure to end or with the list of its alternatives. -/
theorem Evaluates.failure_of_choose
    (h : Evaluates rules input depth (.choose all termination rest index) (.failure failure))
    (htermination : ∀ other ∈ termination, other.kind = .termination) :
    failure.kind = .termination ∨
      failure = .noAlternative (Parser.renderAll all) index := by
  induction rest generalizing termination with
  | nil =>
    have hnone : failure = noneMatched all index termination :=
      Outcome.failure.inj (evaluates_choose_nil_iff.1 h)
    cases termination with
    | none => exact .inr hnone
    | some other =>
      left
      rw [hnone]
      exact htermination other rfl
  | cons parser rest ih =>
    rcases evaluates_choose_cons_iff.1 h with ⟨_, _, hsuccess⟩ | ⟨other, _, hrest⟩
    · cases hsuccess
    · refine ih hrest fun first hfirst => ?_
      -- What is promoted is what was promoted before, or is a failure to end.
      unfold firstTermination at hfirst
      split at hfirst
      · next hkind =>
        cases hfirst
        simpa using (Bool.and_eq_true_iff.1 hkind).2
      · exact htermination first hfirst

/-- **Without an anchor a choice fails with the list of its alternatives**, at the index at which it
was tried. -/
theorem Evaluates.eq_noAlternative
    (h : Evaluates rules input depth (.parse (.choice alternatives) index) (.failure failure))
    (halternatives : (Parser.choice alternatives).anchorless = true)
    (hrules : ∀ name parser, rules name = some parser → parser.anchorless = true) :
    failure = .noAlternative (Parser.renderAll alternatives) index := by
  have hkind : failure.kind ≠ .termination := h.kind_ne_termination halternatives hrules
  rcases (evaluates_choice_iff.1 h).failure_of_choose nofun with htermination | hlist
  · exact absurd htermination hkind
  · exact hlist

end Failures

end Backtrack
