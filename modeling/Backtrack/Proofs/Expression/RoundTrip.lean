import Backtrack.Proofs.Expression.Applications

/-! # The round trip of the expression language

    Every expression is read back from each of the texts it can be written as.
    The induction is on the written expression, for every place of every input:
    what stands behind the text must not let it go on (`Ends`), and the white
    space in front of the next argument, or the end of the application, is
    always such.

    * `chain_arguments`: the arguments, when each of them is read back.
    * `reads_of_written`: the induction.
    * `run_written`: the grammars. -/

namespace Backtrack.Language

open Expression
open Regex (NotNext)

section RoundTrip

variable {input : Text} {index : Nat} {text front name back behind : Text} {e : Expression}
  {part : Argument} {parts : List Argument}

/-! ## §1. Arguments -/

/-- The expression is read from this text, wherever it stands and can end. -/
def ReadBack (input : Text) (e : Expression) (text : Text) : Prop :=
  ∀ index behind, Ends behind → input.dropBytes? index = some (text ++ behind) →
    Reads meaning input index (onRules expression) text behind (.atom e)

/-- Behind an argument stands white space or the end of the application. -/
theorem ends_arguments (hgaps : ∀ part ∈ parts, IsSpace part.gap) (hback : IsBlank back) :
    Ends (parts.flatMap Argument.written ++ back ++ ')' :: behind) := by
  cases parts with
  | nil => exact ends_append_close hback
  | cons part parts =>
    rw [List.flatMap_cons, Argument.written, List.append_assoc, List.append_assoc,
      List.append_assoc]
    exact ends_append_space (hgaps part List.mem_cons_self)

/-- Behind the first argument the others are read one by one, and then the white space behind the
last one, where no argument follows. -/
theorem chain_arguments (hgaps : ∀ part ∈ parts, IsSpace part.gap)
    (hwritten : ∀ part ∈ parts, Written IsSpace part.expression part.text)
    (hread : ∀ part ∈ parts, ReadBack input part.expression part.text) (hback : IsBlank back)
    (hindex : input.dropBytes? index =
      some (parts.flatMap Argument.written ++ back ++ ')' :: behind)) :
    Chain meaning input (.deferred .expression) (.pattern blanksPattern) index
      (parts.flatMap Argument.written ++ back) (')' :: behind)
      ((parts.map Argument.expression).map Value.atom) := by
  induction parts generalizing index with
  | nil =>
    -- The separator takes the last of the white space, and no argument begins at the parenthesis.
    refine .unfinished (reads_blanks_iff.2 ⟨hindex, ⟨hback, ?_⟩, rfl⟩) ?_
    · exact Regex.notNext_cons_iff.2 (by decide)
    · exact refuses_deferred rfl (refuses_expression_of_close (Text.dropBytes?_add_size hindex))
  | cons part parts ih =>
    obtain ⟨hgap, hgaps⟩ := List.forall_mem_cons.1 hgaps
    obtain ⟨hpart, hwritten⟩ := List.forall_mem_cons.1 hwritten
    obtain ⟨hfirst, hread⟩ := List.forall_mem_cons.1 hread
    have hsplit : (part :: parts).flatMap Argument.written ++ back =
        part.gap ++ (part.text ++ (parts.flatMap Argument.written ++ back)) := by
      simp [Argument.written]
    rw [hsplit, List.append_assoc, List.append_assoc] at hindex
    rw [hsplit]
    have htext := Text.dropBytes?_add_size hindex
    have hrest := Text.dropBytes?_add_size htext
    refine .round (reads_blanks_iff.2 ⟨hindex, ⟨hgap.2, ?_⟩, rfl⟩)
      (reads_deferred_iff.2 ⟨_, rfl, hfirst _ _ (ends_arguments hgaps hback) htext⟩) ?_
      (ih hgaps hwritten hread hrest)
    · exact hpart.starts.append.notNext_isBlank
    · exact fun hnil => hpart.starts.ne_nil (List.append_eq_nil_iff.1 hnil).2

/-! ## §2. Expressions -/

/-- An application is read when its arguments are. -/
theorem reads_application (hfront : IsBlank front) (hname : IsName name) (hback : IsBlank back)
    (hgaps : ∀ part ∈ parts, IsSpace part.gap)
    (hwritten : ∀ part ∈ parts, Written IsSpace part.expression part.text)
    (hread : ∀ part ∈ parts, ReadBack input part.expression part.text)
    (hindex : input.dropBytes? index = some
      ('(' :: front ++ name ++ parts.flatMap Argument.written ++ back ++ [')'] ++ behind)) :
    Reads meaning input index (onRules application)
      ('(' :: front ++ name ++ parts.flatMap Argument.written ++ back ++ [')']) behind
      (.pair (.text name) (.list ((parts.map Argument.expression).map Value.atom))) := by
  cases parts with
  | nil =>
    refine reads_application_iff.2 (.inl (reads_bareApplication_iff.2
      ⟨front, name, back, ?_, hfront, hname, hback, rfl, hindex⟩))
    simp
  | cons part parts =>
    obtain ⟨hgap, hgaps⟩ := List.forall_mem_cons.1 hgaps
    obtain ⟨hpart, hwritten⟩ := List.forall_mem_cons.1 hwritten
    obtain ⟨hfirst, hread⟩ := List.forall_mem_cons.1 hread
    have hsplit : '(' :: front ++ name ++ (part :: parts).flatMap Argument.written ++ back ++
        [')'] = '(' :: front ++ name ++ part.gap ++
          (part.text ++ (parts.flatMap Argument.written ++ back)) ++ ([] ++ [')']) := by
      simp [Argument.written]
    rw [hsplit] at hindex ⊢
    have hhead : input.dropBytes? index = some ('(' :: front ++ name ++ (part.gap ++
        (part.text ++ (parts.flatMap Argument.written ++ back ++ ')' :: behind)))) := by
      rw [hindex]
      simp
    have harguments : input.dropBytes? (index + Text.size ('(' :: front ++ name ++ part.gap)) =
        some (part.text ++ (parts.flatMap Argument.written ++ back ++ ')' :: behind)) := by
      rw [← List.append_assoc] at hhead
      exact Text.dropBytes?_add_size hhead
    have hnext : NotNext (fun c => c.isAlphanum || c = '_') (part.gap ++
        (part.text ++ (parts.flatMap Argument.written ++ back ++ ')' :: behind))) :=
      (ends_append_space hgap).notNext fun _ => isStart_of_isNameRest
    -- The alternative without arguments is tried first.
    have hbare : Refuses meaning input index (onRules bareApplication) :=
      refuses_bareApplication hfront hname hgap.2 hpart.starts.append hnext hhead
    refine reads_application_iff.2 (.inr ⟨hbare, reads_deferred_iff.2 ⟨_, rfl,
      reads_withArguments_iff.2 ⟨front, name, part.gap,
        part.text ++ (parts.flatMap Argument.written ++ back), [], _, rfl, hfront, hname, hgap.2,
        by simp [IsBlank], rfl, ?_, ?_, hindex, ?_⟩⟩⟩)
    · exact (ends_append_space hgap).notNext fun _ => isStart_of_isNameRest
    · exact hpart.starts.append.append.notNext_isBlank
    · rw [onRules_arguments]
      have hone : Reads meaning input _ (.deferred .expression) part.text
          (parts.flatMap Argument.written ++ back ++ ')' :: behind) (.atom part.expression) :=
        reads_deferred_iff.2 ⟨_, rfl, hfirst _ _ (ends_arguments hgaps hback) harguments⟩
      have hothers := chain_arguments hgaps hwritten hread hback
        (Text.dropBytes?_add_size harguments)
      exact reads_separated_iff.2
        ⟨part.text, _, _, _, rfl, rfl, hone, .inr ⟨hpart.starts.ne_nil, hothers⟩⟩

/-- **Reading back.** An expression is read from each of its texts, wherever it stands and can
end. -/
theorem reads_of_written (h : Written IsSpace e text) : ReadBack input e text := by
  induction h with
  | string hne hquote =>
    intro index behind _ hindex
    exact reads_expression_iff.2 (.inl (reads_string hne hquote hindex))
  | integer hne hdigits hsize =>
    intro index behind hends hindex
    exact reads_expression_iff.2 (.inl (reads_integer hne hdigits hsize hends hindex))
  | double hdouble hread =>
    intro index behind hends hindex
    exact reads_expression_iff.2 (.inl (reads_double hdouble hread hends hindex))
  | @identifier name hname hnan hinfinity =>
    intro index behind hends hindex
    have hnext : NotNext (fun c => c.isAlphanum || c = '_') behind :=
      hends.notNext fun _ => isStart_of_isNameRest
    exact reads_expression_iff.2 (.inr
      ⟨refuses_literal_of_name hname hnan hinfinity hends hindex, .inl (reads_mapped_iff.2
        ⟨.text name, reads_identifier_iff.2 ⟨hindex, ⟨hname, hnext⟩, rfl⟩, rfl⟩)⟩)
  | @application front name back parts hfront hname hback hgaps hwritten ih =>
    intro index behind _ hindex
    have happlication := reads_application hfront hname hback hgaps hwritten ih hindex
    exact ofParts_pair name _ ▸ reads_expression_of_application happlication

/-! ## §3. Grammars -/

theorem dropBytes?_zero (text : Text) : text.dropBytes? 0 = some (text ++ []) := by
  rw [List.append_nil]
  exact Text.dropBytes?_eq_some_iff.2 ⟨[], rfl, rfl⟩

/-- **Round trip.** The grammars of the language read every expression back from each of its texts,
however deep and wide it is: from every store that earlier runs left behind, all of the text is
consumed, and the value is the expression, or its name and arguments where the grammar is that of
applications. -/
theorem run_written (e : Expression) (text : Text) (h : Written IsSpace e text) :
    (∃ session store, expressionGrammar.start = .ok (session, store)) ∧
    (∀ session store, expressionGrammar.Reaches session store →
      (session.run store text 0).1 = .ok (.success ⟨text, 0, .atom e⟩)) ∧
    (∃ session store, applicationGrammar.start = .ok (session, store)) ∧
    ∀ name arguments, e = .application name arguments →
      ∀ session store, applicationGrammar.Reaches session store →
        (session.run store text 0).1 =
          .ok (.success ⟨text, 0, .pair (.text name) (.list (arguments.map Value.atom))⟩) := by
  refine ⟨⟨_, _, rfl⟩, fun session store hreach => ?_, ⟨_, _, rfl⟩, ?_⟩
  · have hreads := reads_of_written h 0 [] ends_nil (dropBytes?_zero text)
    exact (run_eq_ok_iff hreach).2 (reads_anchored_iff.2 ⟨hreads, rfl⟩).evaluates
  · intro name arguments happlication session store hreach
    cases h with
    | application hfront hname hback hgaps hwritten =>
      cases happlication
      have hreads := reads_application hfront hname hback hgaps hwritten
        (fun part hmem => reads_of_written (hwritten part hmem)) (dropBytes?_zero _)
      exact (run_eq_ok_iff hreach).2 (reads_anchored_iff.2 ⟨hreads, rfl⟩).evaluates
    | _ => cases happlication

/-- An application of `f` to a number and to an application without arguments, whose name could not
stand alone. -/
theorem run_written_application :
    (∃ session store, expressionGrammar.Reaches session store ∧
      (session.run store "(f 07  (NaN) )".toList 0).1 = .ok (.success ⟨"(f 07  (NaN) )".toList, 0,
        .atom (.application ['f'] [.integer 7, .application "NaN".toList []])⟩)) ∧
    ∃ session store, applicationGrammar.Reaches session store ∧
      (session.run store "(f 07  (NaN) )".toList 0).1 = .ok (.success ⟨"(f 07  (NaN) )".toList, 0,
        .pair (.text ['f'])
          (.list [.atom (.integer 7), .atom (.application "NaN".toList [])])⟩) := by
  have hnone : IsBlank [] := List.forall_mem_nil _
  have hone : IsBlank [' '] := List.forall_mem_singleton.2 rfl
  have htwo : IsBlank [' ', ' '] := List.forall_mem_cons.2 ⟨rfl, hone⟩
  have hnumber : Written IsSpace (.integer 7) ['0', '7'] :=
    @Written.integer IsSpace ['0', '7'] (by simp) (List.all_eq_true.1 rfl) (by decide)
  have hinner : Written IsSpace (.application "NaN".toList []) "(NaN)".toList :=
    @Written.application IsSpace [] "NaN".toList [] [] hnone
      ⟨'N', ['a', 'N'], rfl, rfl, List.all_eq_true.1 rfl⟩ hnone (by simp) (by simp)
  have hwritten : Written IsSpace (.application ['f'] [.integer 7, .application "NaN".toList []])
      "(f 07  (NaN) )".toList := by
    refine @Written.application IsSpace [] ['f'] [' '] [⟨[' '], ['0', '7'], .integer 7⟩,
      ⟨[' ', ' '], "(NaN)".toList, .application "NaN".toList []⟩] hnone
      ⟨'f', [], rfl, rfl, by simp⟩ hone ?_ ?_
    · simp [IsSpace, hone, htwo]
    · exact List.forall_mem_cons.2 ⟨hnumber, List.forall_mem_singleton.2 hinner⟩
  obtain ⟨⟨session, store, hstart⟩, hrun, ⟨session', store', hstart'⟩, hrun'⟩ :=
    run_written _ _ hwritten
  exact ⟨⟨session, store, .start hstart, hrun session store (.start hstart)⟩,
    session', store', .start hstart', hrun' _ _ rfl session' store' (.start hstart')⟩

end RoundTrip

end Backtrack.Language
