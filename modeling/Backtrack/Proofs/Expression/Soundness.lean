import Backtrack.Proofs.Expression.Applications

/-! # The soundness of the expression language

    Whatever the grammars accept is a text of the expression that they give.
    The induction is on what is left of the input: the arguments of an
    application stand behind its parenthesis. Nothing need stand between them
    here, where for the round trip there is always white space.

    * `exists_arguments_of_chain`: what the rounds of the arguments read.
    * `onlyWritten`: the induction.
    * `run_accepted`: the grammars. -/

namespace Backtrack.Language

open Expression

section Soundness

variable {input : Text} {index start : Nat} {text behind : Text} {value : Value Expression}
  {values : List (Value Expression)}

/-! ## §1. Arguments -/

/-- Whatever is read as an expression at the index is one of its texts. -/
def OnlyWritten (input : Text) (index : Nat) : Prop :=
  ∀ text behind value, Reads meaning input index (onRules expression) text behind value →
    ∃ e, value = .atom e ∧ Written IsBlank e text

/-- Every value of a chain is an argument, in order, and the last of the white space belongs to
none. -/
theorem exists_arguments_of_chain (honly : ∀ i, start ≤ i → OnlyWritten input i)
    (h : Chain meaning input (.deferred .expression) (.pattern blanksPattern) index text behind
      values) (hstart : start ≤ index) :
    ∃ (parts : List Argument) (back : Text), text = parts.flatMap Argument.written ++ back ∧
      IsBlank back ∧ (∀ part ∈ parts, IsBlank part.gap) ∧
      (∀ part ∈ parts, Written IsBlank part.expression part.text) ∧
      values = (parts.map Argument.expression).map Value.atom := by
  have hexpression {i : Nat} {text behind : Text} {value : Value Expression} (hi : start ≤ i)
      (hread : Reads meaning input i (.deferred .expression) text behind value) :
      ∃ e, value = .atom e ∧ Written IsBlank e text := by
    exact honly i hi _ _ _ ((reads_deferred_iff_of_rule rfl).1 hread)
  induction h with
  | unseparated _ _ => exact ⟨[], [], rfl, by simp [IsBlank], by simp, by simp, rfl⟩
  | @unfinished index gap behind blank hgap _ =>
    obtain ⟨_, ⟨hblank, _⟩, _⟩ := reads_blanks_iff.1 hgap
    exact ⟨[], gap, rfl, hblank, by simp, by simp, rfl⟩
  | still _ hbody =>
    -- A round that gets nowhere would be an expression without a text.
    obtain ⟨e, _, hwritten⟩ := hexpression hstart hbody
    exact absurd rfl hwritten.starts.ne_nil
  | @round index gap text rest behind blank value values hgap hbody _ _ ih =>
    obtain ⟨_, ⟨hblank, _⟩, _⟩ := reads_blanks_iff.1 hgap
    obtain ⟨e, rfl, hwritten⟩ := hexpression (by omega) hbody
    obtain ⟨parts, back, rfl, hback, hgaps, hparts, rfl⟩ := ih (by omega)
    exact ⟨⟨gap, text, e⟩ :: parts, back, by simp [Argument.written], hback,
      List.forall_mem_cons.2 ⟨hblank, hgaps⟩, List.forall_mem_cons.2 ⟨hwritten, hparts⟩, rfl⟩

/-! ## §2. Expressions -/

/-- Whatever is read as an application is one of its texts, if that is so for the expressions
behind its parenthesis. -/
theorem exists_written_of_application (honly : ∀ i, index < i → OnlyWritten input i)
    (h : Reads meaning input index (onRules application) text behind value) :
    ∃ name arguments, value = .pair (.text name) (.list (arguments.map Value.atom)) ∧
      Written IsBlank (.application name arguments) text := by
  rcases reads_application_iff.1 h with h | ⟨_, h⟩
  · obtain ⟨front, name, back, rfl, hfront, hname, hback, rfl, _⟩ := reads_bareApplication_iff.1 h
    refine ⟨name, [], rfl, ?_⟩
    have hwritten := @Written.application IsBlank front name back [] hfront hname hback
      (by simp) (by simp)
    simpa using hwritten
  · obtain ⟨front, name, gap, inner, space, list, rfl, hfront, hname, hgap, hspace, rfl, _, _, _,
      harguments⟩ := reads_withArguments_iff.1 ((reads_deferred_iff_of_rule rfl).1 h)
    rw [onRules_arguments] at harguments
    have hbehind : index < index + Text.size ('(' :: front ++ name ++ gap) :=
      Nat.lt_add_of_pos_right (Text.size_pos_of_ne_nil (List.cons_ne_nil _ _))
    obtain ⟨first, rest, _, more, rfl, rfl, hfirst, hmore⟩ := reads_separated_iff.1 harguments
    obtain ⟨e, rfl, hwritten⟩ := honly _ hbehind _ _ _ ((reads_deferred_iff_of_rule rfl).1 hfirst)
    rcases hmore with ⟨rfl, _⟩ | ⟨_, hchain⟩
    · exact absurd rfl hwritten.starts.ne_nil
    · obtain ⟨parts, back, rfl, hback, hgaps, hparts, rfl⟩ :=
        exists_arguments_of_chain honly hchain (by omega)
      refine ⟨name, e :: parts.map Argument.expression, rfl, ?_⟩
      have happlication := @Written.application IsBlank front name (back ++ space)
        (⟨gap, first, e⟩ :: parts) hfront hname (List.forall_mem_append.2 ⟨hback, hspace⟩)
        (List.forall_mem_cons.2 ⟨hgap, hgaps⟩) (List.forall_mem_cons.2 ⟨hwritten, hparts⟩)
      simpa [Argument.written] using happlication

/-- **Soundness.** Whatever is read as an expression, at any place of any input, is one of its
texts. -/
theorem onlyWritten (input : Text) (index : Nat) : OnlyWritten input index := by
  induction hleft : input.size - index using Nat.strong_induction_on generalizing index with
  | _ left ih =>
  have honly (i : Nat) (hi : index < i) : OnlyWritten input i := by
    intro text behind value hread
    have hle : i ≤ input.size := hread.evaluates.start_le_stop.trans hread.evaluates.stop_le_size
    exact ih _ (by omega) i rfl text behind value hread
  intro text behind value hread
  rcases reads_expression_iff.1 hread with h | ⟨hliteral, h | ⟨_, h⟩⟩
  · exact exists_written_of_literal h
  · exact exists_written_of_name hliteral h
  · obtain ⟨_, happlication, rfl⟩ := reads_mapped_iff.1 h
    obtain ⟨name, arguments, rfl, hwritten⟩ := exists_written_of_application honly happlication
    exact ⟨.application name arguments, ofParts_pair name arguments, hwritten⟩

/-- So it is with applications. -/
theorem exists_written_of_reads_application
    (h : Reads meaning input index (onRules application) text behind value) :
    ∃ name arguments, value = .pair (.text name) (.list (arguments.map Value.atom)) ∧
      Written IsBlank (.application name arguments) text :=
  exists_written_of_application (fun i _ => onlyWritten input i) h

/-! ## §3. Grammars -/

/-- The match goes from the index to the end of the input, and its text is one of the expression. -/
def Accepts (input : Text) (index : Nat) (success : Success (Value Expression)) (e : Expression) :
    Prop :=
  success.index = index ∧ success.stop = input.size ∧
    input.slice? index input.size = some success.text ∧ Written IsBlank e success.text

/-- What an anchored parser matches is read up to the end of the input. -/
theorem reads_of_anchored {part : Part} {success : Success (Value Expression)}
    (h : Evaluates meaning input ⊤ (.parse (onRules (.anchored part)) index) (.success success)) :
    Reads meaning input index (onRules part) success.text [] success.value ∧
      ∀ e, Written IsBlank e success.text → Accepts input index success e := by
  obtain ⟨behind, hreads⟩ := h.reads
  obtain ⟨hpart, rfl⟩ := reads_anchored_iff.1 hreads
  refine ⟨hpart, ?_⟩
  intro e hwritten
  have hslice : success.IsSlice input index := h.sliced
  have hend : success.stop = input.size := by
    obtain ⟨front, rfl, rfl⟩ := Text.dropBytes?_eq_some_iff.1 hreads.at_index
    rw [h.stop_eq]
    simp
  exact ⟨hslice.1, hend, hend ▸ hslice.2, hwritten⟩

/-- **Soundness.** Every success of a grammar of the language, at any index of any input and from
every store that earlier runs left behind, goes to the end of the input, and its text is one of the
expression that its value gives: no argument is lost, made up or out of order, and what stands
between them is white space. -/
theorem run_accepted (session : Session RuleName Expression) (store : Store RuleName Expression)
    (input : Text) (index : Nat) (success : Success (Value Expression))
    (hrun : (session.run store input index).1 = .ok (.success success)) :
    (applicationGrammar.Reaches session store →
      ∃ name arguments, success.value = .pair (.text name) (.list (arguments.map Value.atom)) ∧
        Accepts input index success (.application name arguments)) ∧
    (expressionGrammar.Reaches session store →
      ∃ e, success.value = .atom e ∧ Accepts input index success e) ∧
    ∀ rule, (ruleGrammar rule).Reaches session store →
      ∃ e, success.value = .atom e ∧ Accepts input index success e ∧
        (rule = .function → ∃ name arguments, e = .application name arguments) := by
  have hexpression (hreach : expressionGrammar.Reaches session store) :
      ∃ e, success.value = .atom e ∧ Accepts input index success e := by
    obtain ⟨hreads, haccepts⟩ := reads_of_anchored ((run_eq_ok_iff hreach).1 hrun)
    obtain ⟨e, hvalue, hwritten⟩ := onlyWritten input index _ _ _ hreads
    exact ⟨e, hvalue, haccepts e hwritten⟩
  have honly (i : Nat) (_ : index < i) : OnlyWritten input i := onlyWritten input i
  refine ⟨?_, hexpression, ?_⟩
  · intro hreach
    obtain ⟨hreads, haccepts⟩ := reads_of_anchored ((run_eq_ok_iff hreach).1 hrun)
    obtain ⟨name, arguments, hvalue, hwritten⟩ := exists_written_of_application honly hreads
    exact ⟨name, arguments, hvalue, haccepts _ hwritten⟩
  · intro rule hreach
    cases rule with
    | expression =>
      obtain ⟨e, hvalue, haccepts⟩ := hexpression hreach
      exact ⟨e, hvalue, haccepts, fun hrule => by cases hrule⟩
    | function =>
      obtain ⟨hreads, haccepts⟩ := reads_of_anchored ((run_eq_ok_iff hreach).1 hrun)
      obtain ⟨inner, hinner, hvalue⟩ := reads_mapped_iff.1 hreads
      obtain ⟨name, arguments, rfl, hwritten⟩ := exists_written_of_application honly hinner
      rw [ofParts_pair] at hvalue
      exact ⟨_, hvalue, haccepts _ hwritten, fun _ => ⟨name, arguments, rfl⟩⟩

/-- Arguments need nothing between them where they end by themselves. -/
theorem run_accepted_unspaced :
    ∃ session store, expressionGrammar.Reaches session store ∧
      (session.run store "?(f\"a\"2)".toList 1).1 = .ok (.success ⟨"(f\"a\"2)".toList, 1,
        .atom (.application ['f'] [.string ['a'], .integer 2])⟩) ∧
      Written IsBlank (.application ['f'] [.string ['a'], .integer 2]) "(f\"a\"2)".toList := by
  have hstart : ∃ session store, expressionGrammar.Reaches session store ∧
      (session.run store "?(f\"a\"2)".toList 1).1 = .ok (.success ⟨"(f\"a\"2)".toList, 1,
        .atom (.application ['f'] [.string ['a'], .integer 2])⟩) := by
    refine ⟨_, _, .start rfl, ?_⟩
    rfl
  obtain ⟨session, store, hreach, hrun⟩ := hstart
  obtain ⟨e, hvalue, _, _, _, hwritten⟩ := (run_accepted _ _ _ _ _ hrun).2.1 hreach
  cases hvalue
  exact ⟨session, store, hreach, hrun, hwritten⟩

end Soundness

end Backtrack.Language
