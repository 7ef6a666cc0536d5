import Backtrack.Proofs.Parser.Alternatives
import Backtrack.Proofs.Session.Adequacy
import Backtrack.Proofs.Session.Roots

/-! # What a grammar answers for a template

    The rules and the shared parsers of a grammar give a meaning to every
    written parser over them, and not to its root alone. A template is run
    by putting it in place of the root. What is answered then depends
    neither on the session nor on what has been run in it before, so that
    it is a relation between templates and outcomes.

    * `Grammar.Reaches.answers_iff`: answers are what can be derived.
    * `Grammar.answers_anchored_iff`, `Grammar.exists_answers_choice_iff`:
      anchors and choices, by the answers of their parts. -/

namespace Backtrack

variable {κ α : Type} [DecidableEq κ]

/-! ## §1. Answers -/

/-- In place of the root the template can be built, and this is what every run of it answers on the
input at the index, whatever has been run before. -/
structure Grammar.Answers (grammar : Grammar κ α) (input : Text) (index : Nat)
    (template : Template κ α) (outcome : Outcome (Value α)) : Prop where
  starts : (grammar.around fun _ => template).Starts
  runs : ∀ session store, (grammar.around fun _ => template).Reaches session store →
    (session.run store input index).1 = .ok outcome

section Answers

variable {grammar : Grammar κ α} {session session' : Session κ α} {store store' : Store κ α}
  {input : Text} {index : Nat} {wrap wrap' : Template κ α → Template κ α}
  {template : Template κ α} {templates : List (Template κ α)}
  {outcome outcome' : Outcome (Value α)}

theorem Grammar.Starts.exists_reaches (h : grammar.Starts) :
    ∃ session store, grammar.Reaches session store := by
  obtain ⟨session, store, hstart⟩ := h
  exact ⟨session, store, .start hstart⟩

theorem Grammar.Reaches.starts (h : grammar.Reaches session store) : grammar.Starts := by
  obtain ⟨first, hstart⟩ := h.exists_start
  exact ⟨session, first, hstart⟩

/-- Whatever they run, sessions of one grammar share its parsers and its rules. -/
theorem Grammar.Reaches.shared_eq (h : (grammar.around wrap).Reaches session store)
    (h' : (grammar.around wrap').Reaches session' store') :
    session'.shared = session.shared ∧ session'.rule? = session.rule? := by
  have hother : ((grammar.around wrap).around fun _ => wrap' grammar.root).Reaches session'
      store' := h'
  exact h.shared_around hother

/-- Of a grammar that runs some root, the template can be run if it can be built. -/
theorem Grammar.Reaches.starts_iff (h : (grammar.around wrap).Reaches session store)
    (template : Template κ α) :
    (grammar.around fun _ => template).Starts ↔ Buildable session.shared template := by
  constructor
  · intro hstarts
    obtain ⟨session', store', h'⟩ := hstarts.exists_reaches
    obtain ⟨hshared, _⟩ := h.shared_eq h'
    rw [← hshared]
    exact ⟨session'.parser, h'.builds⟩
  · intro hbuildable
    obtain ⟨parser, hbuilds⟩ := hbuildable
    have hstarts : ((grammar.around wrap).around fun _ => template).Starts :=
      h.starts_around hbuilds
    exact hstarts

/-- What a grammar answers for a template is what can be derived for the parser that is built. -/
theorem Grammar.Reaches.answers_iff (h : (grammar.around wrap).Reaches session store) :
    grammar.Answers input index template outcome ↔
      ∃ parser, Builds session.shared template parser ∧
        parser.AnswersAt session.rule? input index outcome := by
  constructor
  · intro hanswers
    obtain ⟨session', store', h'⟩ := hanswers.starts.exists_reaches
    obtain ⟨hshared, hrules⟩ := h.shared_eq h'
    have hrun := h'.run_eq_ok_iff.1 (hanswers.runs session' store' h')
    rw [hrules] at hrun
    refine ⟨session'.parser, ?_, hrun⟩
    rw [← hshared]
    exact h'.builds
  · rintro ⟨parser, hbuilds, hanswer⟩
    refine ⟨(h.starts_iff template).2 ⟨parser, hbuilds⟩, ?_⟩
    intro session' store' h'
    obtain ⟨hshared, hrules⟩ := h.shared_eq h'
    have hbuilds' : Builds session'.shared template session'.parser := h'.builds
    rw [hshared] at hbuilds'
    rw [h'.run_eq_ok_iff, hbuilds'.unique hbuilds, hrules]
    exact hanswer

/-- For what is known to be built, the answers are those of the parser. -/
theorem Grammar.Reaches.answers_iff_of_builds (h : (grammar.around wrap).Reaches session store)
    {parser : Parser κ α} (hbuilds : Builds session.shared template parser) :
    grammar.Answers input index template outcome ↔
      parser.AnswersAt session.rule? input index outcome := by
  rw [h.answers_iff]
  constructor
  · rintro ⟨other, hother, hanswer⟩
    rw [hbuilds.unique hother]
    exact hanswer
  · intro hanswer
    exact ⟨parser, hbuilds, hanswer⟩

/-- One run tells what all runs answer. -/
theorem Grammar.Reaches.answers_iff_run
    (h : (grammar.around fun _ => template).Reaches session store) :
    grammar.Answers input index template outcome ↔
      (session.run store input index).1 = .ok outcome := by
  have hbuilds : Builds session.shared template session.parser := h.builds
  rw [h.answers_iff_of_builds hbuilds]
  exact h.run_eq_ok_iff.symm

/-- A template has one answer at most. -/
theorem Grammar.Answers.unique (h : grammar.Answers input index template outcome)
    (h' : grammar.Answers input index template outcome') : outcome = outcome' := by
  obtain ⟨session, store, hreach⟩ := h.starts.exists_reaches
  have hboth := (h.runs session store hreach).symm.trans (h'.runs session store hreach)
  exact Except.ok.inj hboth

/-! ## §2. Parts -/

/-- Templates that can be built from the same shared parsers can be run in the same grammars. -/
theorem Grammar.starts_iff_of_buildable {template' : Template κ α}
    (hbuildable : ∀ shared, Buildable shared template ↔ Buildable shared template') :
    (grammar.around fun _ => template).Starts ↔ (grammar.around fun _ => template').Starts := by
  constructor
  · intro hstarts
    obtain ⟨session, store, h⟩ := hstarts.exists_reaches
    have hfirst := (h.starts_iff template).1 hstarts
    exact (h.starts_iff _).2 ((hbuildable _).1 hfirst)
  · intro hstarts
    obtain ⟨session, store, h⟩ := hstarts.exists_reaches
    have hnext := (h.starts_iff template').1 hstarts
    exact (h.starts_iff _).2 ((hbuildable _).2 hnext)

/-- An anchored template answers what the anchor makes of the answer of its body. -/
theorem Grammar.answers_anchored_iff :
    grammar.Answers input index (.anchored template) outcome ↔
      ∃ inner, grammar.Answers input index template inner ∧ outcome = atEnd input inner := by
  constructor
  · intro hanswers
    obtain ⟨session, store, h⟩ := hanswers.starts.exists_reaches
    rw [h.answers_iff] at hanswers
    obtain ⟨parser, hbuilds, hanswer⟩ := hanswers
    obtain ⟨body, hbody, rfl⟩ := hbuilds.exists_of_anchored
    obtain ⟨inner, hinner, rfl⟩ := evaluates_anchored_iff.1 hanswer
    refine ⟨inner, ?_, rfl⟩
    exact h.answers_iff.2 ⟨body, hbody, hinner⟩
  · rintro ⟨inner, hinner, rfl⟩
    obtain ⟨session, store, h⟩ := hinner.starts.exists_reaches
    rw [h.answers_iff] at hinner
    obtain ⟨body, hbody, hinner⟩ := hinner
    rw [h.answers_iff]
    exact ⟨.anchored body, hbody.anchored, evaluates_anchored_iff.2 ⟨inner, hinner, rfl⟩⟩

/-- **A choice** that can be run answers with the first match among its alternatives, or else with
the first failure for want of an end, or else with the list of them. -/
theorem Grammar.exists_answers_choice_iff
    (hstarts : (grammar.around fun _ => .choice templates).Starts) :
    ∃ names, ∀ input index outcome, grammar.Answers input index (.choice templates) outcome ↔
      Chooses (grammar.Answers input index) names index templates outcome := by
  obtain ⟨session, store, h⟩ := hstarts.exists_reaches
  have hbuilds : Builds session.shared (.choice templates) session.parser := h.builds
  obtain ⟨parsers, hparsers, hparser⟩ := hbuilds.exists_of_choice
  rw [hparser] at hbuilds
  refine ⟨Parser.renderAll parsers, fun input index outcome => ?_⟩
  -- Each alternative answers what is derived for the parser that is built for it.
  have halike : List.Forall₂ (fun template parser => ∀ outcome,
      grammar.Answers input index template outcome ↔
        parser.AnswersAt session.rule? input index outcome) templates parsers := by
    exact hparsers.imp fun template parser hpair outcome => h.answers_iff_of_builds hpair
  rw [h.answers_iff_of_builds hbuilds, answersAt_choice_iff]
  exact (SameVerdict.of_forall₂ halike).symm.chooses_iff

end Answers

end Backtrack
