import Backtrack.Proofs.Expression.Literals
import Backtrack.Proofs.Session.Outcomes

/-! # The runs of the expression language end

    An expression tries an application with arguments at its own index, and
    that tries nothing there: its parenthesis is in front of the arguments. So
    no rule of the language can reach itself without consuming something, and
    every run has an outcome.

    * `tries_of_ruleTries`: all that is tried.
    * `runs_end`: grammars in general, and those of the language. -/

namespace Backtrack

/-! ## §1. What a sequence needs -/

/-- A sequence matches the empty text only if its first part does. -/
theorem Parser.MatchesEmpty.first {ρ α : Type} {rules : ρ → Option (Parser ρ α)}
    {first next : Parser ρ α} (h : (Parser.sequence first next).MatchesEmpty rules) :
    first.MatchesEmpty rules := by
  obtain ⟨input, index, success, hevaluates, hempty⟩ := h
  obtain ⟨behind, hreads⟩ := hevaluates.reads
  obtain ⟨text, _, _, _, htext, _, hfirst, _⟩ := reads_sequence_iff.1 hreads
  rw [hempty] at htext
  obtain ⟨rfl, _⟩ := List.append_eq_nil_iff.1 htext.symm
  exact ⟨input, index, _, hfirst.evaluates, rfl⟩

namespace Language

open Expression

section Termination

variable {root : Part} {session : Session RuleName Expression}
  {store : Store RuleName Expression} {name name' : RuleName}

/-! ## §2. What the rules try -/

/-- The parenthesis in front of an application is a character at least. -/
theorem not_matchesEmpty_open : ¬ (Parser.pattern openPattern).MatchesEmpty meaning := by
  rintro ⟨input, index, success, hevaluates, hempty⟩
  obtain ⟨behind, hreads⟩ := hevaluates.reads
  obtain ⟨_, hfound, _⟩ := reads_pattern_iff.1 hreads
  obtain ⟨_, _, ⟨space, htext, _⟩, _⟩ := openPattern_findAt.1 hfound
  rw [hempty] at htext
  cases htext

/-- A literal tries nothing. -/
theorem not_tries_literal : ¬ (onRules literal).Tries meaning name := by
  rw [onRules_literal]
  intro h
  cases h with
  | alternative hmem h =>
    simp only [List.mem_cons, List.not_mem_nil, or_false] at hmem
    rcases hmem with rfl | rfl | rfl
    · cases h with
      | mapped h => cases h
    · cases h with
      | converted h => cases h
    · cases h with
      | converted h => cases h

/-- What stands in front of the arguments, or where there are none, tries nothing. -/
theorem not_tries_head :
    ¬ (Parser.sequence (.pattern openPattern) (.pattern identifierPattern)).Tries meaning name := by
  intro h
  cases h with
  | first h => cases h
  | next _ h => cases h

theorem not_tries_bareApplication : ¬ (onRules bareApplication).Tries meaning name := by
  rw [onRules_bareApplication]
  intro h
  cases h with
  | mapped h =>
    cases h with
    | first h => exact not_tries_head h
    | next _ h => cases h

/-- An application with arguments tries nothing: the arguments come behind the parenthesis. -/
theorem not_tries_withArguments : ¬ (onRules applicationWithArguments).Tries meaning name := by
  rw [onRules_applicationWithArguments]
  intro h
  cases h with
  | mapped h =>
    cases h with
    | next _ h => cases h
    | first h =>
      cases h with
      | next hempty _ =>
        -- The arguments are tried only if everything in front of them can match nothing.
        exact not_matchesEmpty_open hempty.first.first
      | first h =>
        cases h with
        | first h => exact not_tries_head h
        | next _ h => cases h

/-- All that is tried is the application with arguments, by the expression. -/
theorem tries_of_ruleTries (h : Parser.RuleTries meaning name name') :
    name = .expression ∧ name' = .withArguments := by
  obtain ⟨parser, hrule, htries⟩ := h
  cases name with
  | withArguments =>
    cases hrule
    exact absurd htries not_tries_withArguments
  | expression =>
    cases hrule
    refine ⟨rfl, ?_⟩
    rw [onRules_expression] at htries
    cases htries with
    | alternative hmem htries =>
      simp only [List.mem_cons, List.not_mem_nil, or_false] at hmem
      rcases hmem with rfl | rfl | rfl
      · exact absurd htries not_tries_literal
      · cases htries with
        | mapped h => cases h
      · cases htries with
        | mapped htries =>
          rw [onRules_application] at htries
          cases htries with
          | alternative hmem htries =>
            simp only [List.mem_cons, List.not_mem_nil, or_false] at hmem
            rcases hmem with rfl | rfl
            · exact absurd htries not_tries_bareApplication
            · cases htries
              rfl

/-! ## §3. Runs -/

theorem acyclic_of_reaches (h : (grammarOf root).Reaches session store) : session.Acyclic := by
  obtain ⟨hmeaning, _⟩ := meaning_of_reaches h
  intro name hcycle
  rw [hmeaning] at hcycle
  -- The first step of a cycle leaves the expression, and the last one does not come back to it.
  obtain ⟨next, hfirst, _⟩ := Relation.TransGen.head'_iff.1 hcycle
  obtain ⟨previous, _, hlast⟩ := Relation.TransGen.tail'_iff.1 hcycle
  obtain ⟨rfl, _⟩ := tries_of_ruleTries hfirst
  obtain ⟨_, hname⟩ := tries_of_ruleTries hlast
  cases hname

theorem complete_of_reaches (h : (grammarOf root).Reaches session store) : session.Complete := by
  obtain ⟨hmeaning, _⟩ := meaning_of_reaches h
  have hsome (name : RuleName) : (session.rule? name).isSome := by
    rw [hmeaning]
    cases name <;> rfl
  exact ⟨fun name _ => hsome name, fun _ _ _ name _ => hsome name⟩

/-- **Every run ends.** If no rule can reach itself at the index it was entered at, then a run has
an outcome, for every input, at every index and from every store that earlier runs left behind, and
it is one that is derived with no bound on rounds or rules. So it is for the grammars of the
language, all of which start. -/
theorem runs_end :
    (∀ (κ α : Type) [DecidableEq κ] (grammar : Grammar κ α) (session : Session κ α)
      (store : Store κ α), grammar.Reaches session store → session.Complete → session.Acyclic →
      ∀ input index, ∃ outcome, (session.run store input index).1 = .ok outcome ∧
        Evaluates session.rule? input ⊤ (.parse session.parser index) outcome) ∧
    ∀ grammar ∈ [applicationGrammar, expressionGrammar, ruleGrammar .function,
        ruleGrammar .expression],
      (∃ session store, grammar.start = .ok (session, store)) ∧
        ∀ session store, grammar.Reaches session store →
          ∀ input index, ∃ outcome, (session.run store input index).1 = .ok outcome := by
  have hlanguage {root : Part} {session : Session RuleName Expression}
      {store : Store RuleName Expression} (h : (grammarOf root).Reaches session store)
      (input : Text) (index : Nat) :
      ∃ outcome, (session.run store input index).1 = .ok outcome := by
    obtain ⟨outcome, hrun, _⟩ :=
      h.exists_outcome (complete_of_reaches h) (acyclic_of_reaches h) input index
    exact ⟨outcome, hrun⟩
  refine ⟨fun κ α _ grammar session store h hcomplete hacyclic =>
    h.exists_outcome hcomplete hacyclic, ?_⟩
  intro grammar hmem
  simp only [List.mem_cons, List.not_mem_nil, or_false] at hmem
  rcases hmem with rfl | rfl | rfl | rfl
  · exact ⟨⟨_, _, rfl⟩, fun _ _ => hlanguage⟩
  · exact ⟨⟨_, _, rfl⟩, fun _ _ => hlanguage⟩
  · exact ⟨⟨_, _, rfl⟩, fun _ _ => hlanguage⟩
  · exact ⟨⟨_, _, rfl⟩, fun _ _ => hlanguage⟩

/-- The parentheses that are still open here end a run like any other. -/
theorem runs_end_parentheses :
    parenthesesSession.Complete ∧ parenthesesSession.Acyclic ∧
      ∃ outcome, (parenthesesSession.run ⟨1, [], []⟩ "(()(".toList 0).1 = .ok outcome := by
  have hrule : parenthesesSession.rule? () = some (.repetition (.sequence (.literal ['('])
      (.sequence (.deferred ()) (.literal [')']))) ⟨0, none⟩) := rfl
  have hcomplete : parenthesesSession.Complete :=
    ⟨fun name _ => by rw [hrule]; rfl, fun _ _ _ name _ => by rw [hrule]; rfl⟩
  have hnothing (name : Unit) : ¬ Parser.RuleTries parenthesesSession.rule? () name := by
    rintro ⟨parser, hparser, htries⟩
    cases hrule.symm.trans hparser
    cases htries with
    | repetition htries =>
      cases htries with
      | first htries => cases htries
      | next hempty _ =>
        obtain ⟨input, index, success, hevaluates, htext⟩ := hempty
        have hmatch := evaluates_literal_iff.1 hevaluates
        simp only [matchLiteral] at hmatch
        split at hmatch
        · cases hmatch
          cases htext
        · cases hmatch
  have hacyclic : parenthesesSession.Acyclic := by
    intro name hcycle
    obtain ⟨next, hfirst, _⟩ := Relation.TransGen.head'_iff.1 hcycle
    exact hnothing next hfirst
  obtain ⟨outcome, hrun, _⟩ := runs_end.1 Unit Unit parentheses parenthesesSession ⟨1, [], []⟩
    (.start rfl) hcomplete hacyclic "(()(".toList 0
  exact ⟨hcomplete, hacyclic, outcome, hrun⟩

end Termination

end Language

end Backtrack
