import Backtrack.Proofs.Parser.ParsingExpression
import Backtrack.Proofs.Session.Adequacy

/-! # Runs and parsing expressions

    A grammar that is written in parsing expressions is run as one: what the
    rules of `Peg.Derives` say of its start, its rules being nonterminals, is
    what a run answers. The other way around this is so for every run in
    which no body of a repetition matches nothing.

    * `Grammar.Reaches.derives_iff`: the two together, as an equivalence.
    * `Grammar.Reaches.recognizes`: one by one. -/

namespace Backtrack

variable {κ α : Type}

/-! ## §1. Grammars of parsing expressions -/

/-- The grammar is written in parsing expressions. -/
structure Grammar.IsPeg (grammar : Grammar κ α) : Prop where
  rules : ∀ entry ∈ grammar.rules, entry.2.IsPeg
  shared : ∀ entry ∈ grammar.shared, entry.2.IsPeg
  root : grammar.root.IsPeg

/-- Several parsers that are built have a property that each of them is built with. -/
theorem forall_of_buildAll {property : BuiltParser κ α → Prop} {shared : SharedParsers κ α}
    {templates : List (Template κ α)} {n m : Nat} {parsers : List (BuiltParser κ α)}
    (each : ∀ template ∈ templates, ∀ {n m : Nat} {parser : BuiltParser κ α},
      (build shared template).run n = .ok (parser, m) → property parser)
    (h : (buildAll shared templates).run n = .ok (parsers, m)) :
    ∀ parser ∈ parsers, property parser := by
  induction templates generalizing n parsers with
  | nil =>
    cases Construct.run_pure_eq_ok_iff.1 h
    simp
  | cons template rest ih =>
    obtain ⟨first, i, hfirst, h⟩ := Construct.run_bind_eq_ok_iff.1 h
    obtain ⟨others, hothers, rfl⟩ := Construct.run_map_eq_ok_iff.1 h
    exact List.forall_mem_cons.2 ⟨each template List.mem_cons_self hfirst,
      ih (fun other hmem => each other (List.mem_cons_of_mem _ hmem)) hothers⟩

/-- What is built from a parsing expression is one. -/
theorem isPeg_of_build {shared : SharedParsers κ α} (hshared : ∀ entry ∈ shared, entry.2.IsPeg)
    {template : Template κ α} (htemplate : template.IsPeg) {parser : BuiltParser κ α} {n m : Nat}
    (h : (build shared template).run n = .ok (parser, m)) : parser.IsPeg := by
  induction htemplate generalizing n m parser with
  | literal text =>
    cases Construct.run_pure_eq_ok_iff.1 h
    exact .literal text
  | sequence _ _ ihfirst ihnext =>
    obtain ⟨first, i, hfirst, h⟩ := Construct.run_bind_eq_ok_iff.1 h
    obtain ⟨next, hnext, rfl⟩ := Construct.run_map_eq_ok_iff.1 h
    exact .sequence (ihfirst hfirst) (ihnext hnext)
  | choice _ ih =>
    obtain ⟨parsers, hparsers, rfl⟩ := Construct.run_map_eq_ok_iff.1 h
    exact .choice (forall_of_buildAll (fun template hmem _ _ _ hbuild => ih template hmem hbuild)
      hparsers)
  | repetition _ ih =>
    obtain ⟨body, i, hbody, h⟩ := Construct.run_bind_eq_ok_iff.1 h
    obtain ⟨_, _, rfl⟩ := Construct.run_map_eq_ok_iff.1 h
    exact .repetition (ih hbody)
  | option _ ih =>
    obtain ⟨body, hbody, rfl⟩ := Construct.run_map_eq_ok_iff.1 h
    exact .option (ih hbody)
  | negation _ ih =>
    obtain ⟨body, hbody, rfl⟩ := Construct.run_map_eq_ok_iff.1 h
    exact .negation (ih hbody)
  | deferred mention =>
    -- A rule stays a name, and the mention of a shared parser becomes that parser.
    cases mention with
    | rule name =>
      cases h
      exact .deferred _
    | shared name =>
      cases hlookup : shared.lookup name with
      | none =>
        simp only [build, hlookup] at h
        cases h
      | some found =>
        simp only [build, hlookup] at h
        cases Construct.run_pure_eq_ok_iff.1 h
        obtain ⟨before, behind, rfl, _⟩ := List.lookup_eq_some_iff.1 hlookup
        exact hshared (name, parser) (by simp)

/-- Shared parsers that are built from parsing expressions are parsing expressions. -/
theorem isPeg_of_buildShared {templates : List (String × Template κ α)}
    {built shared : SharedParsers κ α} {n m : Nat} (hbuilt : ∀ entry ∈ built, entry.2.IsPeg)
    (htemplates : ∀ entry ∈ templates, entry.2.IsPeg)
    (h : (buildShared built templates).run n = .ok (shared, m)) :
    ∀ entry ∈ shared, entry.2.IsPeg := by
  induction templates generalizing built n with
  | nil =>
    cases Construct.run_pure_eq_ok_iff.1 h
    exact hbuilt
  | cons entry rest ih =>
    obtain ⟨name, template⟩ := entry
    obtain ⟨parser, i, hparser, h⟩ := Construct.run_bind_eq_ok_iff.1 h
    obtain ⟨htemplate, hrest⟩ := List.forall_mem_cons.1 htemplates
    have hfirst : parser.IsPeg := isPeg_of_build hbuilt htemplate hparser
    exact ih (List.forall_mem_cons.2 ⟨hfirst, hbuilt⟩) hrest h

/-! ## §2. Sessions of parsing expressions -/

variable [DecidableEq κ] {grammar : Grammar κ α} {session : Session κ α} {store : Store κ α}
  {input : Text} {index : Nat} {verdict : Verdict}

/-- All that a session of parsing expressions runs are parsing expressions. -/
theorem Grammar.Reaches.isPeg (h : grammar.Reaches session store) (hpeg : grammar.IsPeg) :
    session.parser.IsPeg ∧
      ∀ name parser, session.rule? name = some parser → parser.IsPeg := by
  obtain ⟨first, hstart⟩ := h.exists_start
  obtain ⟨m, hshared, hroot, hrules, _⟩ := Grammar.exists_of_start hstart
  have hbuilt := isPeg_of_buildShared (by simp) hpeg.shared hshared
  refine ⟨(isPeg_of_build hbuilt hpeg.root hroot).rename Cell.rule, fun name parser hrule => ?_⟩
  unfold Session.rule? at hrule
  rw [hrules] at hrule
  split at hrule
  · cases hrule
  · next template hlookup =>
    split at hrule
    · next built _ hbuild =>
      cases hrule
      obtain ⟨before, behind, hentries, _⟩ := List.lookup_eq_some_iff.1 hlookup
      have htemplate : template.IsPeg := hpeg.rules (name, template) (by simp [hentries])
      exact (isPeg_of_build hbuilt htemplate hbuild).rename Cell.rule
    · cases hrule

/-! ## §3. Runs -/

/-- What is derived is what a run answers on whose way every body of a repetition that matches
matches something. -/
theorem Grammar.Reaches.derives_iff (h : grammar.Reaches session store) (hpeg : grammar.IsPeg)
    (hboundary : input.isBoundary index = true) :
    Peg.Derives session.rule? input session.parser index verdict ↔
      (∃ outcome, (session.run store input index).1 = .ok outcome ∧ outcome.verdict = verdict) ∧
        (Task.parse session.parser index).Progresses session.rule? input := by
  constructor
  · intro hderives
    obtain ⟨outcome, hevaluates, hverdict⟩ := hderives.evaluates hboundary
    exact ⟨⟨outcome, h.run_eq_ok_iff.2 hevaluates, hverdict⟩,
      hderives.progresses hboundary (.parse _ _)⟩
  · rintro ⟨⟨outcome, hrun, rfl⟩, hprogresses⟩
    obtain ⟨hparser, hrules⟩ := h.isPeg hpeg
    exact Peg.explains_of_evaluates hrules (h.run_eq_ok_iff.1 hrun) hprogresses hparser hboundary

/-- **Runs recognize what parsing expressions describe.** Where a grammar of parsing expressions
consumes the input up to a place, its run succeeds up to there, and where it fails, the run fails.
The other way around a run with an outcome has the derivation that says the same, unless some body
of a repetition matched nothing on the way. -/
theorem Grammar.Reaches.recognizes (h : grammar.Reaches session store) (hpeg : grammar.IsPeg)
    (hboundary : input.isBoundary index = true) :
    (∀ stop, Peg.Derives session.rule? input session.parser index (.consumes stop) →
      ∃ success, (session.run store input index).1 = .ok (.success success) ∧
        success.index = index ∧ success.stop = stop) ∧
    (Peg.Derives session.rule? input session.parser index .fails →
      ∃ failure, (session.run store input index).1 = .ok (.failure failure)) ∧
    ∀ outcome, (session.run store input index).1 = .ok outcome →
      (Task.parse session.parser index).Progresses session.rule? input →
      Peg.Derives session.rule? input session.parser index outcome.verdict := by
  refine ⟨fun stop hderives => ?_, fun hderives => ?_, fun outcome hrun hprogresses => ?_⟩
  · obtain ⟨⟨outcome, hrun, hverdict⟩, _⟩ := (h.derives_iff hpeg hboundary).1 hderives
    obtain ⟨success, rfl, hstop⟩ := exists_success_of_verdict hverdict
    exact ⟨success, hrun, (h.run_eq_ok_iff.1 hrun).isSlice.1, hstop⟩
  · obtain ⟨⟨outcome, hrun, hverdict⟩, _⟩ := (h.derives_iff hpeg hboundary).1 hderives
    obtain ⟨failure, rfl⟩ := exists_failure_of_verdict hverdict
    exact ⟨failure, hrun⟩
  · exact (h.derives_iff hpeg hboundary).2 ⟨⟨outcome, hrun, rfl⟩, hprogresses⟩

/-- Groups in parentheses, any number of them one behind the other, and no other group begun. -/
def groups : Grammar Unit Unit where
  rules := [((), .sequence (.literal ['('])
    (.sequence (.repetition (.deferred (.rule ())) .many) (.literal [')'])))]
  root := .sequence (.repetition (.deferred (.rule ())) .many) (.negation (.literal ['(']))

/-- The session that the groups start with. -/
def groupsSession : Session Unit Unit where
  rules := groups.rules
  shared := []
  root := .sequence (.repetition (.deferred ⟨0, ()⟩) .many) (.negation (.literal ['(']))

theorem groups_isPeg : groups.IsPeg where
  rules := by
    intro entry hmem
    cases List.mem_singleton.1 hmem
    exact .sequence (.literal _) (.sequence (.repetition (.deferred _)) (.literal _))
  shared := by simp [groups]
  root := .sequence (.repetition (.deferred _)) (.negation (.literal _))

/-- One group is consumed. -/
theorem groups_derives : Peg.Derives groupsSession.rule? ['(', ')'] groupsSession.parser 0
    (.consumes 2) := by
  have hnone : Peg.Derives groupsSession.rule? ['(', ')'] (.deferred ()) 1 .fails :=
    .deferred rfl (.sequenceFails (Peg.derives_literal ['('] 1))
  have hgroup : Peg.Derives groupsSession.rule? ['(', ')'] (.deferred ()) 0 (.consumes 2) :=
    .deferred rfl (.sequence (Peg.derives_literal ['('] 0)
      (.sequence (.enough hnone) (Peg.derives_literal [')'] 1)))
  have hend : Peg.Derives groupsSession.rule? ['(', ')'] (.deferred ()) 2 .fails :=
    .deferred rfl (.sequenceFails (Peg.derives_literal ['('] 2))
  exact .sequence (.again hgroup (.enough hend)) (.negation (Peg.derives_literal ['('] 2))

/-- A run of the groups, from the store that another run left behind. -/
theorem recognizes_groups :
    ∃ store, groups.Reaches groupsSession store ∧ groups.IsPeg ∧
      Text.isBoundary ['(', ')'] 0 = true ∧
      ∃ success, (groupsSession.run store ['(', ')'] 0).1 = .ok (.success success) ∧
        success.stop = 2 := by
  have hreach : groups.Reaches groupsSession (groupsSession.run ⟨1, [], []⟩ ['('] 0).2.1 :=
    .run _ _ (.start rfl)
  have hboundary : Text.isBoundary ['(', ')'] 0 = true := rfl
  obtain ⟨hconsumes, _, _⟩ := hreach.recognizes groups_isPeg hboundary
  obtain ⟨success, hrun, _, hstop⟩ := hconsumes 2 groups_derives
  exact ⟨_, hreach, groups_isPeg, hboundary, success, hrun, hstop⟩

end Backtrack
