import Backtrack.Proofs.Expression.Soundness
import Backtrack.Proofs.Parser.Anchors

/-! # What a rejected expression reports

    Failures of all kinds arise inside of an expression: digits that are no
    number, arguments that break off. None of them is reported. Every part of
    the language that can be entered is a choice, and there is no anchor inside
    it, so where it does not match, it says what it expected and nothing more.
    Where it does match, the anchor around it can only find that more follows.

    * `expression_refused`, `application_refused`: the parts without an anchor.
    * `rejection_reports`: the entry points. -/

namespace Backtrack.Language

open Expression

/-! ## §1. What is expected -/

/-- What is expected where an application is. -/
def applicationExpected : List String :=
  ["/\\(\\s*/ ~ /[a-zA-Z_][a-zA-Z0-9_]*/ ~ /\\s*\\)/", "[Lazy]"]

/-- What is expected where an expression is. -/
def expressionExpected : List String :=
  ["/\"([^\"]+)\"/ | /-?(((\\.\\d+|\\d+\\.\\d*)([eE]-?\\d+)?)|Infinity|NaN)/ | /\\d+/",
    "/[a-zA-Z_][a-zA-Z0-9_]*/",
    "/\\(\\s*/ ~ /[a-zA-Z_][a-zA-Z0-9_]*/ ~ /\\s*\\)/ | [Lazy]"]

/-- The grammars of the language, each with the part that it anchors and with what that part
expects. -/
def entries : List (Grammar RuleName Expression × Part × List String) :=
  [(applicationGrammar, application, applicationExpected),
    (expressionGrammar, expression, expressionExpected),
    (ruleGrammar .function, .mapped application ofParts, applicationExpected),
    (ruleGrammar .expression, expression, expressionExpected)]

section Rejection

variable {input : Text} {index : Nat} {depth : ℕ∞} {failure : Failure}
  {success : Success (Value Expression)} {grammar : Grammar RuleName Expression} {part : Part}
  {expected : List String} {session free : Session RuleName Expression}
  {store freeStore : Store RuleName Expression}

/-! ## §2. Parts without an anchor -/

/-- No anchor stands in what the rules stand for. -/
theorem meaning_anchorless : ∀ name parser, meaning name = some parser →
    parser.anchorless = true := by
  intro name parser hrule
  cases name with
  | expression =>
    cases hrule
    rfl
  | withArguments =>
    cases hrule
    rfl

/-- Where no application stands, what is reported is what was expected. -/
theorem application_refused
    (h : Evaluates meaning input depth (.parse (onRules application) index) (.failure failure)) :
    failure = .noAlternative applicationExpected index := by
  have hexpected : Parser.renderAll [onRules bareApplication, .deferred .withArguments] =
      applicationExpected := by decide +kernel
  rw [onRules_application] at h
  rw [← hexpected]
  exact h.eq_noAlternative rfl meaning_anchorless

/-- Where no expression stands, what is reported is what was expected. -/
theorem expression_refused
    (h : Evaluates meaning input depth (.parse (onRules expression) index) (.failure failure)) :
    failure = .noAlternative expressionExpected index := by
  have hexpected : Parser.renderAll [onRules literal, .mapped (.pattern identifierPattern) ofName,
      .mapped (onRules application) ofParts] = expressionExpected := by decide +kernel
  rw [onRules_expression] at h
  rw [← hexpected]
  exact h.eq_noAlternative rfl meaning_anchorless

/-- A conversion that cannot refuse hands a failure on. -/
theorem failure_of_mapped {body : Parser RuleName Expression}
    {convert : Value Expression → Value Expression}
    (h : Evaluates meaning input depth (.parse (.mapped body convert) index) (.failure failure)) :
    Evaluates meaning input depth (.parse body index) (.failure failure) := by
  obtain ⟨inner, hbody, hmap⟩ := evaluates_mapped_iff.1 h
  cases inner with
  | success success => cases hmap
  | failure other =>
    cases hmap
    exact hbody

/-- An application has a text. -/
theorem application_consumes
    (h : Evaluates meaning input ⊤ (.parse (onRules application) index) (.success success)) :
    success.text ≠ [] := by
  obtain ⟨_, hreads⟩ := h.reads
  obtain ⟨_, _, _, hwritten⟩ := exists_written_of_reads_application hreads
  exact hwritten.starts.ne_nil

/-- An expression has a text. -/
theorem expression_consumes
    (h : Evaluates meaning input ⊤ (.parse (onRules expression) index) (.success success)) :
    success.text ≠ [] := by
  obtain ⟨_, hreads⟩ := h.reads
  obtain ⟨_, _, hwritten⟩ := onlyWritten input index _ _ _ hreads
  exact hwritten.starts.ne_nil

/-! ## §3. Entry points -/

/-- A part that is entered consumes something where it matches, and reports what it expects where it
does not. -/
structure Enters (part : Part) (expected : List String) : Prop where
  consumes : ∀ input index success,
    Evaluates meaning input ⊤ (.parse (onRules part) index) (.success success) →
    success.text ≠ []
  refused : ∀ input index failure,
    Evaluates meaning input ⊤ (.parse (onRules part) index) (.failure failure) →
    failure = .noAlternative expected index

theorem enters_application : Enters application applicationExpected where
  consumes _ _ _ h := application_consumes h
  refused _ _ _ h := application_refused h

theorem enters_expression : Enters expression expressionExpected where
  consumes _ _ _ h := expression_consumes h
  refused _ _ _ h := expression_refused h

theorem enters_function : Enters (.mapped application ofParts) applicationExpected where
  consumes input index success h := by
    obtain ⟨inner, hbody, hmap⟩ := evaluates_mapped_iff.1 h
    cases inner with
    | failure failure => cases hmap
    | success inner =>
      -- The conversion keeps the text.
      cases hmap
      have hne : inner.text ≠ [] := application_consumes hbody
      exact hne
  refused _ _ _ h := application_refused (failure_of_mapped h)

/-- Every grammar of the language anchors a part that is entered. -/
theorem anchors_of_mem_entries (h : (grammar, part, expected) ∈ entries) :
    grammar = grammarOf (.anchored part) ∧ Enters part expected := by
  simp only [entries, List.mem_cons, Prod.mk.injEq, List.not_mem_nil, or_false] at h
  rcases h with ⟨rfl, rfl, rfl⟩ | ⟨rfl, rfl, rfl⟩ | ⟨rfl, rfl, rfl⟩ | ⟨rfl, rfl, rfl⟩
  · exact ⟨rfl, enters_application⟩
  · exact ⟨rfl, enters_expression⟩
  · exact ⟨rfl, enters_function⟩
  · exact ⟨rfl, enters_expression⟩

/-- An anchor fails because what it is around fails, or in front of the character that follows a
match. -/
theorem cases_of_anchored {body : Parser RuleName Expression}
    (h : Evaluates meaning input ⊤ (.parse (.anchored body) index) (.failure failure)) :
    Evaluates meaning input ⊤ (.parse body index) (.failure failure) ∨
      ∃ success found rest, Evaluates meaning input ⊤ (.parse body index) (.success success) ∧
        input.dropBytes? success.stop = some (found :: rest) ∧
        failure = .trailing found success.stop := by
  obtain ⟨inner, hbody, hend⟩ := evaluates_anchored_iff.1 h
  cases inner with
  | failure other =>
    cases hend
    exact .inl hbody
  | success success =>
    obtain ⟨rest, hrest⟩ := Option.isSome_iff_exists.1 hbody.isBoundary_stop
    simp only [atEnd, hrest] at hend
    cases rest with
    | nil => cases hend
    | cons found rest => exact .inr ⟨success, found, rest, hbody, hrest, Outcome.failure.inj hend⟩

/-- **What a rejected expression reports.** An entry point fails in one of two ways. Where its part
matches without the anchor, it fails in front of the character that follows the match, which is
behind the index and before the end. Where the part does not match, it says what the entry point
expects, always the same, at the index asked for. So no failure of a conversion is ever reported,
and none of a negation. -/
theorem rejection_reports (hentry : (grammar, part, expected) ∈ entries)
    (h : grammar.Reaches session store) (hfree : (grammarOf part).Reaches free freeStore)
    (hrun : (session.run store input index).1 = .ok (.failure failure)) :
    ((∃ success found rest,
        (free.run freeStore input index).1 = .ok (.success success) ∧
        index < success.stop ∧ success.stop < input.size ∧
        input.dropBytes? success.stop = some (found :: rest) ∧
        failure = .trailing found success.stop) ∨
      (free.run freeStore input index).1 = .ok (.failure failure) ∧
        failure = .noAlternative expected index) ∧
    failure.kind ≠ .conversion ∧ failure.kind ≠ .inversion := by
  obtain ⟨rfl, henters⟩ := anchors_of_mem_entries hentry
  have hanchored : Evaluates meaning input ⊤ (.parse (.anchored (onRules part)) index)
      (.failure failure) := (run_eq_ok_iff h).1 hrun
  rcases cases_of_anchored hanchored with hpart | ⟨success, found, rest, hpart, hrest, rfl⟩
  · have hexpected := henters.refused input index failure hpart
    refine ⟨.inr ⟨(run_eq_ok_iff hfree).2 hpart, hexpected⟩, ?_⟩
    rw [hexpected]
    exact ⟨nofun, nofun⟩
  · refine ⟨.inl ⟨success, found, rest, (run_eq_ok_iff hfree).2 hpart, ?_, ?_, hrest, rfl⟩,
      nofun, nofun⟩
    · have hpos := Text.size_pos_of_ne_nil (henters.consumes input index success hpart)
      have hstart : success.index = index := hpart.isSlice.1
      unfold Success.stop Success.size
      omega
    · -- A character stands behind the match, so the input goes on there.
      obtain ⟨front, hinput, hfront⟩ := Text.dropBytes?_eq_some_iff.1 hrest
      have hfound := found.utf8Size_pos
      rw [hinput, Text.size_append, Text.size_cons]
      omega

/-- A result that is there and is no success is a failure. -/
theorem exists_failure_of_isSuccess {result : Except Stop (Outcome (Value Expression))}
    (h : result.toOption.map Outcome.isSuccess = some false) :
    ∃ failure, result = .ok (.failure failure) := by
  cases result with
  | error stop => cases h
  | ok outcome =>
    cases outcome with
    | success success => cases h
    | failure failure => exact ⟨failure, rfl⟩

/-- An argument of too many digits is no number, so nothing is an application here: this is all that
is reported, however deep the argument stands. Behind a whole application the report is what goes
on. -/
theorem rejection_reports_digits :
    ∃ session store free freeStore,
      (applicationGrammar, application, applicationExpected) ∈ entries ∧
      applicationGrammar.Reaches session store ∧ (grammarOf application).Reaches free freeStore ∧
      (session.run store "é(f (g 9223372036854775808))".toList 2).1 =
        .ok (.failure (.noAlternative applicationExpected 2)) ∧
      (session.run store "(f 1) x".toList 0).1 = .ok (.failure (.trailing ' ' 5)) := by
  have hruns : ∃ session store free freeStore,
      applicationGrammar.Reaches session store ∧ (grammarOf application).Reaches free freeStore ∧
      (session.run store "é(f (g 9223372036854775808))".toList 2).1.toOption.map
        Outcome.isSuccess = some false ∧
      (free.run freeStore "é(f (g 9223372036854775808))".toList 2).1.toOption.map
        Outcome.isSuccess = some false ∧
      (session.run store "(f 1) x".toList 0).1.toOption.map Outcome.isSuccess = some false ∧
      (free.run freeStore "(f 1) x".toList 0).1.toOption.map
        (fun outcome => (outcome.isSuccess, outcome.stop)) = some (true, 5) := by
    -- Only whether the runs succeed, and where, is computed: what they report follows.
    refine ⟨_, _, _, _, .start rfl, .start rfl, ?_, ?_, ?_, ?_⟩
    · decide +kernel
    · decide +kernel
    · decide +kernel
    · decide +kernel
  obtain ⟨session, store, free, freeStore, h, hfree, hdigits, hnone, hgoes, hfive⟩ := hruns
  have hentry : (applicationGrammar, application, applicationExpected) ∈ entries :=
    List.mem_cons_self
  refine ⟨session, store, free, freeStore, hentry, h, hfree, ?_, ?_⟩
  · obtain ⟨failure, hrun⟩ := exists_failure_of_isSuccess hdigits
    obtain ⟨⟨_, _, _, hsuccess, _⟩ | ⟨_, rfl⟩, _⟩ := rejection_reports hentry h hfree hrun
    · rw [hsuccess] at hnone
      cases hnone
    · exact hrun
  · obtain ⟨failure, hrun⟩ := exists_failure_of_isSuccess hgoes
    obtain ⟨⟨success, found, rest, hsuccess, _, _, hrest, rfl⟩ | ⟨hfailure, _⟩, _⟩ :=
      rejection_reports hentry h hfree hrun
    · rw [hsuccess] at hfive
      have hstop : success.stop = 5 := (Prod.mk.inj (Option.some.inj hfive)).2
      rw [hstop] at hrest hrun
      cases hrest
      exact hrun
    · rw [hfailure] at hfive
      cases hfive

end Rejection

end Backtrack.Language
