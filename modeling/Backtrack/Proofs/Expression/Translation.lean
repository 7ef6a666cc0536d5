import Backtrack.Proofs.Expression.Patterns
import Backtrack.Proofs.Expression.Rules
import Backtrack.Proofs.Parser.Translation
import Backtrack.Proofs.Session.Outcomes

/-! # Runs behind something else

    A run on an input and a run of the same session on the input behind
    something else come to the same, so many bytes further on, if none of the
    session's patterns looks at what stands in front of it. The terminals of
    the expression language are all of this sort.

    * `Regex.forward_of_plain`: patterns that look forward only.
    * `Session.translates`: the two runs.
    * `Language.forward_of_reaches`: the grammars of the language. -/

namespace Backtrack

/-! ## §1. Runs -/

section Runs

variable {κ α : Type} [DecidableEq κ]

/-- The patterns that a session can use look forward only. -/
def Session.Forward (session : Session κ α) : Prop :=
  ∀ expression, session.parser.Holds session.rule? (.pattern expression) → expression.Forward

/-- A run on the input has an outcome if and only if a run on the input behind something else has
one, and the two are the same but for where they are. -/
def Session.Translates (session : Session κ α) (store store' : Store κ α) (front input : Text)
    (index : Nat) : Prop :=
  (∀ outcome, (session.run store input index).1 = .ok outcome →
    ∃ outcome', (session.run store' (front ++ input) (front.size + index)).1 = .ok outcome' ∧
      outcome.Behind front.size outcome') ∧
  ∀ outcome', (session.run store' (front ++ input) (front.size + index)).1 = .ok outcome' →
    ∃ outcome, (session.run store input index).1 = .ok outcome ∧
      outcome.Behind front.size outcome'

theorem Grammar.Reaches.translates {grammar : Grammar κ α} {session : Session κ α}
    {store store' : Store κ α} (h : grammar.Reaches session store)
    (h' : grammar.Reaches session store') (hforward : session.Forward) (front input : Text)
    (index : Nat) : session.Translates store store' front input index := by
  refine ⟨fun outcome hrun => ?_, fun outcome' hrun => ?_⟩
  · obtain ⟨outcome', hevaluates, hbehind⟩ :=
      (h.run_eq_ok_iff.1 hrun).exists_behind hforward front
    exact ⟨outcome', h'.run_eq_ok_iff.2 hevaluates, hbehind⟩
  · obtain ⟨outcome, hevaluates, hbehind⟩ := (h'.run_eq_ok_iff.1 hrun).exists_in_front hforward
    exact ⟨outcome, h.run_eq_ok_iff.2 hevaluates, hbehind⟩

end Runs

/-! ## §2. Terminals -/

/-- A pattern of a plain expression looks forward only. -/
theorem Regex.forward_of_plain {pattern : Pattern} {node : Regex.Node}
    (hanchored : pattern.anchored = some node.program) (hplain : node.plain = true) :
    pattern.Forward := by
  intro input input' index index' rest hrest hrest'
  apply Option.ext
  intro text
  rw [Regex.findAt_eq_some_iff hanchored hplain, Regex.findAt_eq_some_iff hanchored hplain, hrest,
    hrest']

namespace Language

open Expression

/-- The patterns of the language. -/
def terminals : List Pattern :=
  [stringPattern, doublePattern, integerPattern, identifierPattern, openPattern, closePattern,
    blanksPattern]

theorem terminals_forward : ∀ pattern ∈ terminals, pattern.Forward := by
  intro pattern hmem
  simp only [terminals, List.mem_cons, List.not_mem_nil, or_false] at hmem
  rcases hmem with rfl | rfl | rfl | rfl | rfl | rfl | rfl
  · exact Regex.forward_of_plain stringPattern_anchored rfl
  · exact Regex.forward_of_plain doublePattern_anchored rfl
  · exact Regex.forward_of_plain integerPattern_anchored rfl
  · exact Regex.forward_of_plain identifierPattern_anchored rfl
  · exact Regex.forward_of_plain openPattern_anchored rfl
  · exact Regex.forward_of_plain closePattern_anchored rfl
  · exact Regex.forward_of_plain blanksPattern_anchored rfl

/-- Only terminals stand in an application. -/
theorem mem_terminals_of_application :
    ∀ pattern ∈ (onRules application).patterns, pattern ∈ terminals := by
  have hpatterns : (onRules application).patterns =
      [openPattern, identifierPattern, closePattern] := rfl
  rw [hpatterns]
  simp [terminals]

/-- Only terminals stand in an expression. -/
theorem mem_terminals_of_expression :
    ∀ pattern ∈ (onRules expression).patterns, pattern ∈ terminals := by
  have hpatterns : (onRules expression).patterns = [stringPattern, doublePattern, integerPattern,
      identifierPattern, openPattern, identifierPattern, closePattern] := rfl
  rw [hpatterns]
  simp [terminals]

/-- Only terminals stand in what a rule stands for. -/
theorem mem_terminals_of_meaning {name : RuleName} {parser : Parser RuleName Expression}
    (h : meaning name = some parser) : ∀ pattern ∈ parser.patterns, pattern ∈ terminals := by
  cases name with
  | expression =>
    cases h
    exact mem_terminals_of_expression
  | withArguments =>
    cases h
    have hpatterns : (onRules applicationWithArguments).patterns = [openPattern, identifierPattern,
        blanksPattern, blanksPattern, closePattern] := rfl
    rw [hpatterns]
    simp [terminals]

/-- All patterns that a session of the language can use look forward only, if its root's do. -/
theorem forward_of_reaches {root : Part} {session : Session RuleName Expression}
    {store : Store RuleName Expression} (h : (grammarOf root).Reaches session store)
    (hroot : ∀ pattern ∈ (onRules root).patterns, pattern ∈ terminals) : session.Forward := by
  intro expression hholds
  obtain ⟨hmeaning, hparser⟩ := meaning_of_reaches h
  rw [hmeaning, hparser] at hholds
  rcases Parser.mem_patterns_of_holds hholds with hmem | ⟨name, other, hrule, hmem⟩
  · exact terminals_forward expression (hroot expression hmem)
  · exact terminals_forward expression (mem_terminals_of_meaning hrule expression hmem)

/-! ## §3. Grammars -/

/-- **Translation.** If no pattern that a session can use looks at what stands in front of it, then
a run on an input behind something else comes to the same as on the input alone: it has an outcome
if and only if the other has one, a match has the same text and the same value, a failure is of the
same kind, and both are as many bytes further on as stand in front. The terminals of the language
are patterns of this sort, so this holds for all of its grammars. -/
theorem runs_translate :
    (∀ (κ α : Type) [DecidableEq κ] (grammar : Grammar κ α) (session : Session κ α)
      (store store' : Store κ α), grammar.Reaches session store → grammar.Reaches session store' →
      session.Forward → ∀ front input index,
        session.Translates store store' front input index) ∧
    (∀ pattern ∈ terminals, pattern.Forward) ∧
    ∀ grammar ∈ [applicationGrammar, expressionGrammar, ruleGrammar .function,
        ruleGrammar .expression],
      ∀ session store store', grammar.Reaches session store → grammar.Reaches session store' →
        session.Forward ∧ ∀ front input index,
          session.Translates store store' front input index := by
  have hlanguage {root : Part} {session : Session RuleName Expression}
      {store store' : Store RuleName Expression}
      (hroot : ∀ pattern ∈ (onRules root).patterns, pattern ∈ terminals)
      (h : (grammarOf root).Reaches session store) (h' : (grammarOf root).Reaches session store') :
      session.Forward ∧ ∀ front input index,
        session.Translates store store' front input index := by
    have hforward := forward_of_reaches h hroot
    exact ⟨hforward, h.translates h' hforward⟩
  refine ⟨fun κ α _ grammar session store store' h h' hforward => h.translates h' hforward,
    terminals_forward, ?_⟩
  intro grammar hmem
  simp only [List.mem_cons, List.not_mem_nil, or_false] at hmem
  -- The patterns of an anchor and of a conversion are those of the body.
  rcases hmem with rfl | rfl | rfl | rfl
  · exact fun _ _ _ => hlanguage mem_terminals_of_application
  · exact fun _ _ _ => hlanguage mem_terminals_of_expression
  · exact fun _ _ _ => hlanguage mem_terminals_of_application
  · exact fun _ _ _ => hlanguage mem_terminals_of_expression

/-- Parentheses behind a letter of two bytes, and expressions behind whatever there is. -/
theorem runs_translate_parentheses :
    parentheses.Reaches parenthesesSession ⟨1, [], []⟩ ∧ parenthesesSession.Forward ∧
      (∃ outcome, (parenthesesSession.run ⟨1, [], []⟩ ['é', '(', ')'] 2).1 = .ok outcome ∧
        (Outcome.success ⟨['(', ')'], 0, .list [.pair (.text ['(']) (.pair (.list [])
          (.text [')']))]⟩ : Outcome (Value Unit)).Behind 2 outcome) ∧
      ∃ session store, expressionGrammar.Reaches session store ∧
        session.Translates store store "né(".toList "x".toList 0 := by
  have hreach : parentheses.Reaches parenthesesSession ⟨1, [], []⟩ := .start rfl
  -- No pattern stands in the parser or in its rule.
  have hforward : parenthesesSession.Forward := by
    intro expression hholds
    rcases Parser.mem_patterns_of_holds hholds with hmem | ⟨name, other, hrule, hmem⟩
    · cases hmem
    · cases hrule
      cases hmem
  have hexpression : ∃ session store, expressionGrammar.Reaches session store :=
    ⟨_, _, .start rfl⟩
  obtain ⟨session, store, hreaches⟩ := hexpression
  obtain ⟨hbehind, _⟩ := runs_translate.1 Unit Unit parentheses parenthesesSession _ _ hreach
    hreach hforward ['é'] ['(', ')'] 0
  obtain ⟨_, hlanguage⟩ :=
    runs_translate.2.2 expressionGrammar (by simp) session store store hreaches hreaches
  exact ⟨hreach, hforward, hbehind _ rfl, session, store, hreaches, hlanguage _ _ 0⟩

end Language

end Backtrack
