import Backtrack.Proofs.Expression.Rejection
import Backtrack.Proofs.Expression.Termination

/-! # The entry points agree

    An application can be asked for in parts, as an expression, and among all
    expressions. The first two convert the same match, one behind the anchor
    and the other in front of it. The third tries literals and names first,
    and these are told apart from applications by the parenthesis: where there
    is one, only the application is left, and where there is none, there is no
    application.

    * `mapOutcome_atEnd`: an anchor and a conversion change places.
    * `evaluates_expression_of_open`: expressions at a parenthesis.
    * `entry_points_agree`: the three entry points. -/

namespace Backtrack.Language

open Expression

section Entries

variable {input : Text} {index : Nat} {text behind rest name : Text} {value : Value Expression}
  {arguments : List Expression} {root : Part} {session : Session RuleName Expression}
  {store : Store RuleName Expression} {outcome called any : Outcome (Value Expression)}

/-! ## §1. Anchors and conversions -/

/-- A conversion keeps where a match ends, so it can stand in front of the anchor or behind it. -/
theorem mapOutcome_atEnd (convert : Value Expression → Value Expression) :
    mapOutcome convert (atEnd input outcome) = atEnd input (mapOutcome convert outcome) := by
  cases outcome with
  | failure failure => rfl
  | success success =>
    have hstop : (success.map convert).stop = success.stop := rfl
    simp only [mapOutcome, atEnd, hstop]
    cases input.dropBytes? success.stop with
    | none => rfl
    | some rest => cases rest <;> rfl

/-! ## §2. Parentheses -/

/-- An application begins with a parenthesis. -/
theorem exists_open_of_written {Gap : Text → Prop}
    (h : Written Gap (.application name arguments) text) : ∃ rest, text = '(' :: rest := by
  cases h with
  | application _ _ _ _ _ => exact ⟨_, rfl⟩

/-- What is read as an application is the pair of a name and arguments, behind a parenthesis. -/
theorem parts_of_reads_application
    (h : Reads meaning input index (onRules application) text behind value) :
    (∃ rest, input.dropBytes? index = some ('(' :: rest)) ∧
      ∃ (name : Text) (arguments : List Expression),
        value = .pair (.text name) (.list (arguments.map Value.atom)) := by
  obtain ⟨name, arguments, hvalue, hwritten⟩ := exists_written_of_reads_application h
  obtain ⟨rest, rfl⟩ := exists_open_of_written hwritten
  exact ⟨⟨rest ++ behind, h.at_index⟩, name, arguments, hvalue⟩

/-- At a parenthesis neither literals nor names are left. -/
theorem reads_expression_of_open (hopen : input.dropBytes? index = some ('(' :: rest)) :
    Reads meaning input index (onRules expression) text behind value ↔
      Reads meaning input index (.mapped (onRules application) ofParts) text behind value := by
  have hliteral : Refuses meaning input index (onRules literal) :=
    refuses_literal_of_parenthesis hopen (.inl rfl)
  have hname : Refuses meaning input index (.mapped (.pattern identifierPattern) ofName) :=
    refuses_mapped (refuses_identifier hopen (by decide))
  rw [reads_expression_iff]
  constructor
  · rintro (hread | ⟨_, hread | ⟨_, hread⟩⟩)
    · exact absurd hliteral hread.not_refuses
    · exact absurd hname hread.not_refuses
    · exact hread
  · intro hread
    exact .inr ⟨hliteral, .inr ⟨hname, hread⟩⟩

/-- An expression that is an application is read where the application is. -/
theorem reads_expression_application_iff :
    Reads meaning input index (onRules expression) text behind
        (.atom (.application name arguments)) ↔
      Reads meaning input index (onRules application) text behind
        (.pair (.text name) (.list (arguments.map Value.atom))) := by
  constructor
  · intro h
    obtain ⟨e, hvalue, hwritten⟩ := onlyWritten input index _ _ _ h
    cases hvalue
    obtain ⟨rest, rfl⟩ := exists_open_of_written hwritten
    -- The text shows the parenthesis, so what was read is an application with its parts converted.
    obtain ⟨inner, happlication, hinner⟩ :=
      reads_mapped_iff.1 ((reads_expression_of_open h.at_index).1 h)
    obtain ⟨_, name', arguments', rfl⟩ := parts_of_reads_application happlication
    rw [ofParts_pair] at hinner
    cases hinner
    exact happlication
  · intro h
    obtain ⟨⟨rest, hopen⟩, _⟩ := parts_of_reads_application h
    rw [reads_expression_of_open hopen]
    exact reads_mapped_iff.2 ⟨_, h, (ofParts_pair name arguments).symm⟩

/-- At a parenthesis an expression is the application, if there is one, and otherwise says what an
expression is. -/
theorem evaluates_expression_of_open (hopen : input.dropBytes? index = some ('(' :: rest))
    (happlication : Evaluates meaning input ⊤ (.parse (onRules application) index) called)
    (hexpression : Evaluates meaning input ⊤ (.parse (onRules expression) index) any) :
    any = mapOutcome ofParts called ∨
      called = .failure (.noAlternative applicationExpected index) ∧
        any = .failure (.noAlternative expressionExpected index) := by
  cases called with
  | success success =>
    left
    obtain ⟨behind, hreads⟩ := happlication.reads
    have hmapped := (reads_expression_of_open hopen).2 (reads_mapped_iff.2 ⟨_, hreads, rfl⟩)
    have hindex : success.index = index := happlication.isSlice.1
    rw [hexpression.deterministic hmapped.evaluates, ← hindex]
    rfl
  | failure failure =>
    right
    cases any with
    | success success =>
      obtain ⟨behind, hreads⟩ := hexpression.reads
      obtain ⟨_, hinner, _⟩ := reads_mapped_iff.1 ((reads_expression_of_open hopen).1 hreads)
      exact absurd ⟨failure, happlication⟩ hinner.not_refuses
    | failure other =>
      rw [application_refused happlication, expression_refused hexpression]
      exact ⟨rfl, rfl⟩

/-! ## §3. Anchored runs -/

/-- An anchored part of the language has an outcome wherever it is entered, and so has the part. -/
theorem exists_outcome_of_anchored {part : Part}
    (h : (grammarOf (.anchored part)).Reaches session store) (input : Text) (index : Nat) :
    ∃ outcome, (session.run store input index).1 = .ok (atEnd input outcome) ∧
      Evaluates meaning input ⊤ (.parse (onRules part) index) outcome := by
  obtain ⟨outcome, hrun, _⟩ :=
    h.exists_outcome (complete_of_reaches h) (acyclic_of_reaches h) input index
  obtain ⟨inner, hinner, rfl⟩ := evaluates_anchored_iff.1 ((run_eq_ok_iff h).1 hrun)
  exact ⟨inner, hrun, hinner⟩

/-- Which match an outcome is can be told from what is read. -/
theorem eq_success_iff {parser : Parser RuleName Expression} {start : Nat}
    (h : Evaluates meaning input ⊤ (.parse parser index) outcome) :
    outcome = .success ⟨text, start, value⟩ ↔
      start = index ∧ ∃ behind, Reads meaning input index parser text behind value := by
  constructor
  · rintro rfl
    have hstart : start = index := h.isSlice.1
    exact ⟨hstart, h.reads⟩
  · rintro ⟨rfl, behind, hreads⟩
    exact h.deterministic hreads.evaluates

/-- Two ways to enter an application say the same of one place: the same match, or failures of one
kind at one index, which are the same where something follows a match. -/
def Agree (wrapped any : Outcome (Value Expression)) : Prop :=
  (∃ success, wrapped = .success success ∧ any = .success success) ∨
    ∃ failure other, wrapped = .failure failure ∧ any = .failure other ∧
      failure.kind = other.kind ∧ failure.index = other.index ∧
      (failure.kind = .termination → failure.message = other.message)

theorem Agree.refl (outcome : Outcome (Value Expression)) : Agree outcome outcome := by
  cases outcome with
  | success success => exact .inl ⟨success, rfl, rfl⟩
  | failure failure => exact .inr ⟨failure, failure, rfl, rfl, rfl, rfl, fun _ => rfl⟩

/-- **The three entry points agree**, for every input and index and from every store that earlier
runs left behind. All three have an outcome. An application as an expression is the application in
parts with its value converted, and fails with the same failure. Among all expressions an
application is found where the application in parts is found, with the same text. And at a
parenthesis the two rules agree: only the list of what was expected is different. -/
theorem entry_points_agree {parts function expressions : Session RuleName Expression}
    {partsStore functionStore expressionsStore : Store RuleName Expression}
    (hparts : applicationGrammar.Reaches parts partsStore)
    (hfunction : (ruleGrammar .function).Reaches function functionStore)
    (hexpressions : expressionGrammar.Reaches expressions expressionsStore)
    (input : Text) (index : Nat) :
    ∃ called wrapped any,
      (parts.run partsStore input index).1 = .ok called ∧
      (function.run functionStore input index).1 = .ok wrapped ∧
      (expressions.run expressionsStore input index).1 = .ok any ∧
      (∀ failure, wrapped = .failure failure ↔ called = .failure failure) ∧
      (∀ success, called = .success success → ∃ name arguments,
        success.value = .pair (.text name) (.list (arguments.map Value.atom)) ∧
          wrapped = .success
            ⟨success.text, success.index, .atom (.application name arguments)⟩) ∧
      (∀ text start name arguments,
        any = .success ⟨text, start, .atom (.application name arguments)⟩ ↔
          called = .success
            ⟨text, start, .pair (.text name) (.list (arguments.map Value.atom))⟩) ∧
      ∀ rest, input.dropBytes? index = some ('(' :: rest) → Agree wrapped any := by
  obtain ⟨inner, hcalled, happlication⟩ := exists_outcome_of_anchored hparts input index
  obtain ⟨converted, hwrapped, hmapped⟩ := exists_outcome_of_anchored hfunction input index
  obtain ⟨found, hany, hfound⟩ := exists_outcome_of_anchored hexpressions input index
  obtain rfl : converted = mapOutcome ofParts inner :=
    hmapped.deterministic (.mapped happlication)
  refine ⟨_, _, _, hcalled, hwrapped, hany, ?_, ?_, ?_, ?_⟩
  · intro failure
    rw [← mapOutcome_atEnd]
    cases atEnd input inner with
    | success success => simp [mapOutcome]
    | failure other => simp [mapOutcome]
  · intro success hsuccess
    have hanchored := (run_eq_ok_iff hparts).1 (hsuccess ▸ hcalled)
    obtain ⟨behind, hreads⟩ := hanchored.reads
    obtain ⟨_, name, arguments, hvalue⟩ :=
      parts_of_reads_application (reads_anchored_iff.1 hreads).1
    refine ⟨name, arguments, hvalue, ?_⟩
    rw [← mapOutcome_atEnd, hsuccess, ← ofParts_pair, ← hvalue]
    rfl
  · intro text start name arguments
    rw [eq_success_iff (.anchored hfound), eq_success_iff (.anchored happlication)]
    -- Behind both matches is the end of the input.
    simp only [reads_anchored_iff, reads_expression_application_iff]
  · intro rest hopen
    rcases evaluates_expression_of_open hopen happlication hfound with rfl | ⟨rfl, rfl⟩
    · exact Agree.refl _
    · exact .inr ⟨_, _, rfl, rfl, rfl, rfl, nofun⟩

/-- What is found behind a question mark among all expressions is what the other entry points find
there. -/
theorem entry_points_agree_behind_mark :
    ∃ parts partsStore function functionStore expressions expressionsStore,
      applicationGrammar.Reaches parts partsStore ∧
      (ruleGrammar .function).Reaches function functionStore ∧
      expressionGrammar.Reaches expressions expressionsStore ∧
      (parts.run partsStore "?(f\"a\"2)".toList 1).1 = .ok (.success ⟨"(f\"a\"2)".toList, 1,
        .pair (.text ['f']) (.list [.atom (.string ['a']), .atom (.integer 2)])⟩) ∧
      (function.run functionStore "?(f\"a\"2)".toList 1).1 = .ok (.success
        ⟨"(f\"a\"2)".toList, 1, .atom (.application ['f'] [.string ['a'], .integer 2])⟩) ∧
      (expressions.run expressionsStore "?(f\"a\"2)".toList 1).1 = .ok (.success
        ⟨"(f\"a\"2)".toList, 1, .atom (.application ['f'] [.string ['a'], .integer 2])⟩) := by
  have hstart : ∃ expressions expressionsStore,
      expressionGrammar.Reaches expressions expressionsStore ∧
      (expressions.run expressionsStore "?(f\"a\"2)".toList 1).1 = .ok (.success
        ⟨"(f\"a\"2)".toList, 1, .atom (.application ['f'] [.string ['a'], .integer 2])⟩) := by
    refine ⟨_, _, .start rfl, ?_⟩
    rfl
  obtain ⟨expressions, expressionsStore, hexpressions, hrun⟩ := hstart
  obtain ⟨parts, partsStore, hparts⟩ : ∃ session store,
      applicationGrammar.Reaches session store := ⟨_, _, .start rfl⟩
  obtain ⟨function, functionStore, hfunction⟩ : ∃ session store,
      (ruleGrammar .function).Reaches session store := ⟨_, _, .start rfl⟩
  obtain ⟨called, wrapped, any, hcalled, hwrapped, hany, _, _, hiff, hopen⟩ :=
    entry_points_agree hparts hfunction hexpressions "?(f\"a\"2)".toList 1
  -- One run is computed, and the others follow.
  obtain rfl : any = _ := Except.ok.inj (hany.symm.trans hrun)
  have hfound := (hiff _ _ ['f'] [.string ['a'], .integer 2]).1 rfl
  have hagree : Agree wrapped _ := hopen _ rfl
  refine ⟨_, _, _, _, _, _, hparts, hfunction, hexpressions, hfound ▸ hcalled, ?_, hrun⟩
  rcases hagree with ⟨success, rfl, hsame⟩ | ⟨_, other, _, hother, _⟩
  · rw [hwrapped, hsame]
  · cases hother

end Entries

end Backtrack.Language
