import Backtrack.Proofs.Expression.RoundTrip
import Backtrack.Proofs.Expression.Soundness
import Backtrack.Proofs.Regex.Locality

/-! # Expressions out of their context

    An expression that is read somewhere is read again from its own text alone.
    To cut off what follows could make an alternative match that failed before,
    so nothing about the context is used but that the arguments of an
    application stand in front of its parenthesis. No token but a string goes
    on behind that (`Proofs.Regex.Locality`), and a string is not given up for
    another alternative. The induction is on what is left of the input.

    * `refuses_literal_elsewhere`, `reads_literal_elsewhere`: literals in front
      of a parenthesis.
    * `portable`: expressions in front of a parenthesis.
    * `reads_application_elsewhere`: applications, whatever stands behind them.
    * `run_alone`: the grammars. -/

namespace Backtrack.Language

open Expression
open Regex (NotNext)

section StandAlone

variable {rules : RuleName → Option (Parser RuleName Expression)} {input input' : Text}
  {index index' start : Nat} {text rest space last behind behind' : Text} {value : Value Expression}
  {values : List (Value Expression)}

/-! ## §1. Literals and names -/

/-- Up to a parenthesis it is of no account what stands behind it. -/
theorem notNext_elsewhere {p : Char → Bool} (h : NotNext p (rest ++ ')' :: behind)) :
    NotNext p (rest ++ ')' :: behind') := by
  cases rest with
  | nil => exact Regex.notNext_cons_iff.2 (Regex.notNext_cons_iff.1 h)
  | cons c rest => exact Regex.notNext_cons_iff.2 (Regex.notNext_cons_iff.1 h)

section Tokens

variable (hindex : input.dropBytes? index = some (text ++ (rest ++ ')' :: behind)))
  (hindex' : input'.dropBytes? index' = some (text ++ (rest ++ ')' :: behind')))

include hindex hindex'

theorem doublePattern_elsewhere :
    doublePattern.findAt input index = doublePattern.findAt input' index' := by
  rw [← List.append_assoc] at hindex hindex'
  exact Regex.findAt_eq_findAt doublePattern_anchored rfl rfl hindex hindex'

theorem integerPattern_elsewhere :
    integerPattern.findAt input index = integerPattern.findAt input' index' := by
  rw [← List.append_assoc] at hindex hindex'
  exact Regex.findAt_eq_findAt integerPattern_anchored rfl rfl hindex hindex'

/-- Where there is no string, a literal is refused if it is refused elsewhere, with the same up to
a parenthesis: what a pattern has found in vain is found again. -/
theorem refuses_literal_elsewhere (hstring : Refuses rules input' index' (.pattern stringPattern))
    (h : Refuses rules input index (onRules literal)) :
    Refuses rules input' index' (onRules literal) := by
  obtain ⟨_, hdouble, hinteger⟩ := refuses_literal_iff.1 h
  exact refuses_literal_iff.2 ⟨refuses_mapped hstring,
    refuses_converted_of_findAt_eq (doublePattern_elsewhere hindex hindex') hdouble,
    refuses_converted_of_findAt_eq (integerPattern_elsewhere hindex hindex') hinteger⟩

end Tokens

/-- A literal in front of a parenthesis. -/
theorem reads_literal_elsewhere
    (h : Reads rules input index (onRules literal) text (rest ++ ')' :: behind) value)
    (hindex' : input'.dropBytes? index' = some (text ++ (rest ++ ')' :: behind'))) :
    Reads rules input' index' (onRules literal) text (rest ++ ')' :: behind') value := by
  have hindex := h.at_index
  rcases reads_literal_iff.1 h with h | ⟨_, h | ⟨hdouble, h⟩⟩
  · -- A string may hold parentheses, and it ends with its own quotation mark.
    obtain ⟨_, hpattern, rfl⟩ := reads_mapped_iff.1 h
    obtain ⟨_, hfound, rfl⟩ := reads_pattern_iff.1 hpattern
    obtain ⟨_, _, hcontent⟩ := stringPattern_findAt.1 hfound
    have hfound' := stringPattern_findAt.2 ⟨_, hindex', hcontent⟩
    exact reads_literal_iff.2 (.inl (reads_mapped_iff.2
      ⟨_, reads_pattern_iff.2 ⟨hindex', hfound', rfl⟩, rfl⟩))
  · have hread := reads_converted_of_findAt_eq (doublePattern_elsewhere hindex hindex') h hindex'
    obtain ⟨_, hpattern, _⟩ := reads_converted_iff.1 h
    obtain ⟨_, hfound, _⟩ := reads_pattern_iff.1 hpattern
    obtain ⟨c, more, rfl, hc⟩ := (doublePattern_sound hfound).exists_cons
    have hstring : Refuses rules input' index' (.pattern stringPattern) := by
      apply refuses_string hindex'
      rintro rfl
      exact absurd hc (by decide)
    exact reads_literal_iff.2 (.inr ⟨refuses_mapped hstring, .inl hread⟩)
  · have hread := reads_converted_of_findAt_eq (integerPattern_elsewhere hindex hindex') h hindex'
    obtain ⟨_, hpattern, _⟩ := reads_converted_iff.1 h
    obtain ⟨_, hfound, _⟩ := reads_pattern_iff.1 hpattern
    obtain ⟨_, _, hne, hdigits, _⟩ := integerPattern_findAt.1 hfound
    obtain ⟨c, more, rfl⟩ := List.exists_cons_of_ne_nil hne
    have hstring : Refuses rules input' index' (.pattern stringPattern) := by
      apply refuses_string hindex'
      rintro rfl
      exact absurd (hdigits '"' List.mem_cons_self) (by decide)
    -- A decimal that was found in front of the digits and could not be read stays as it is.
    have hdouble' :=
      refuses_converted_of_findAt_eq (doublePattern_elsewhere hindex hindex') hdouble
    exact reads_literal_iff.2 (.inr ⟨refuses_mapped hstring, .inr ⟨hdouble', hread⟩⟩)

/-- A name where no literal is, in front of a parenthesis. -/
theorem reads_name_elsewhere (hliteral : Refuses rules input index (onRules literal))
    (h : Reads rules input index (.mapped (.pattern identifierPattern) ofName) text
      (rest ++ ')' :: behind) value)
    (hindex' : input'.dropBytes? index' = some (text ++ (rest ++ ')' :: behind'))) :
    Refuses rules input' index' (onRules literal) ∧
      Reads rules input' index' (.mapped (.pattern identifierPattern) ofName) text
        (rest ++ ')' :: behind') value := by
  have hindex := h.at_index
  obtain ⟨_, hpattern, rfl⟩ := reads_mapped_iff.1 h
  obtain ⟨_, ⟨hname, hnext⟩, rfl⟩ := reads_identifier_iff.1 hpattern
  have hread : Reads rules input' index' (.pattern identifierPattern) text
      (rest ++ ')' :: behind') (.text text) :=
    reads_identifier_iff.2 ⟨hindex', ⟨hname, notNext_elsewhere hnext⟩, rfl⟩
  obtain ⟨c, word, rfl, hc⟩ := hname.exists_cons
  have hstring : Refuses rules input' index' (.pattern stringPattern) := by
    apply refuses_string hindex'
    rintro rfl
    exact absurd hc (by decide)
  exact ⟨refuses_literal_elsewhere hindex hindex' hstring hliteral,
    reads_mapped_iff.2 ⟨_, hread, rfl⟩⟩

/-! ## §2. Applications -/

/-- What is read as an expression at this place, with a parenthesis further on, is read wherever the
same stands up to the parenthesis. -/
def Portable (input : Text) (index : Nat) : Prop :=
  ∀ text rest behind value,
    Reads meaning input index (onRules expression) text (rest ++ ')' :: behind) value →
    ∀ input' index' behind', input'.dropBytes? index' = some (text ++ (rest ++ ')' :: behind')) →
      Reads meaning input' index' (onRules expression) text (rest ++ ')' :: behind') value

/-- Between an expression and the parenthesis there may be more expressions, and white space. -/
theorem Portable.reads (h : Portable input index)
    (hread : Reads meaning input index (onRules expression) text
      (rest ++ (space ++ ')' :: behind)) value)
    (hindex' : input'.dropBytes? index' = some (text ++ (rest ++ (space ++ ')' :: behind')))) :
    Reads meaning input' index' (onRules expression) text (rest ++ (space ++ ')' :: behind'))
      value := by
  rw [← List.append_assoc] at hread ⊢
  exact h text (rest ++ space) behind value hread input' index' behind'
    (by rw [hindex', List.append_assoc])

/-- There is always white space to read, if only an empty one. -/
theorem not_refuses_blanks (hindex : input.dropBytes? index = some text) :
    ¬ Refuses rules input index (.pattern blanksPattern) := by
  have hsplit := List.takeWhile_append_dropWhile (p := Text.isBlank) (l := text)
  have hblanks := Regex.dropWhile_append_eq_iff.1 (congrArg (List.dropWhile Text.isBlank) hsplit)
  rw [← hsplit] at hindex
  exact (reads_blanks_iff.2 ⟨hindex, hblanks, rfl⟩).not_refuses

/-- The arguments behind the first one, if each of them is portable. -/
theorem chain_elsewhere (hportable : ∀ i, start ≤ i → Portable input i)
    (h : Chain meaning input (.deferred .expression) (.pattern blanksPattern) index text last
      values)
    (hlast : last = space ++ ')' :: behind) (hspace : IsBlank space) (hstart : start ≤ index)
    (hindex' : input'.dropBytes? index' = some (text ++ (space ++ ')' :: behind'))) :
    Chain meaning input' (.deferred .expression) (.pattern blanksPattern) index' text
      (space ++ ')' :: behind') values := by
  induction h generalizing index' with
  | unseparated hindex hgap => exact absurd hgap (not_refuses_blanks hindex)
  | @unfinished index gap last blank hgap _ =>
    subst hlast
    obtain ⟨_, ⟨hblank, hnext⟩, _⟩ := reads_blanks_iff.1 hgap
    -- The separator has taken all of the white space, so the parenthesis comes next.
    cases space with
    | nil =>
      exact .unfinished (reads_blanks_iff.2 ⟨hindex', ⟨hblank, notNext_elsewhere hnext⟩, rfl⟩)
        (refuses_deferred rfl (refuses_expression_of_close (Text.dropBytes?_add_size hindex')))
    | cons c space =>
      have hc := Regex.notNext_cons_iff.1 hnext
      rw [hspace c List.mem_cons_self] at hc
      cases hc
  | still _ hbody =>
    -- A round that gets nowhere would be an expression without a text.
    replace hbody := (reads_deferred_iff_of_rule rfl).1 hbody
    obtain ⟨_, _, hwritten⟩ := onlyWritten _ _ _ _ _ hbody
    exact absurd rfl hwritten.starts.ne_nil
  | @round index gap text rest last blank value values hgap hbody hmoves _ ih =>
    subst hlast
    obtain ⟨_, ⟨hblank, _⟩, _⟩ := reads_blanks_iff.1 hgap
    replace hbody := (reads_deferred_iff_of_rule rfl).1 hbody
    obtain ⟨_, _, hwritten⟩ := onlyWritten _ _ _ _ _ hbody
    -- The separator, the argument and the rest of the chain stand at the other place, too.
    have hgap' : input'.dropBytes? index' =
        some (gap ++ (text ++ (rest ++ (space ++ ')' :: behind')))) := by
      rw [hindex']
      simp
    have htext' := Text.dropBytes?_add_size hgap'
    have hbody' := (hportable _ (by omega)).reads hbody htext'
    exact .round
      (reads_blanks_iff.2 ⟨hgap', ⟨hblank, hwritten.starts.append.notNext_isBlank⟩, rfl⟩)
      ((reads_deferred_iff_of_rule rfl).2 hbody') hmoves
      (ih rfl (by omega) (Text.dropBytes?_add_size htext'))

/-- Arguments in front of the parenthesis, if each of them is portable. -/
theorem reads_arguments_elsewhere (hportable : ∀ i, index ≤ i → Portable input i)
    (h : Reads meaning input index (onRules arguments) text (space ++ ')' :: behind) value)
    (hspace : IsBlank space)
    (hindex' : input'.dropBytes? index' = some (text ++ (space ++ ')' :: behind'))) :
    Starts text ∧
      Reads meaning input' index' (onRules arguments) text (space ++ ')' :: behind') value := by
  rw [onRules_arguments] at h ⊢
  obtain ⟨first, rest, _, more, rfl, rfl, hfirst, hmore⟩ := reads_separated_iff.1 h
  replace hfirst := (reads_deferred_iff_of_rule rfl).1 hfirst
  obtain ⟨e, rfl, hwritten⟩ := onlyWritten _ _ _ _ _ hfirst
  rcases hmore with ⟨rfl, _⟩ | ⟨hne, hchain⟩
  · exact absurd rfl hwritten.starts.ne_nil
  rw [List.append_assoc] at hindex'
  have hchain' : Chain meaning input' (.deferred .expression) (.pattern blanksPattern)
      (index' + first.size) rest (space ++ ')' :: behind') more :=
    chain_elsewhere hportable hchain rfl hspace (Nat.le_add_right _ _)
      (Text.dropBytes?_add_size hindex')
  have hfirst' := (hportable index (Nat.le_refl _)).reads hfirst hindex'
  exact ⟨hwritten.starts.append, reads_separated_iff.2 ⟨first, rest, _, more, rfl, rfl,
    (reads_deferred_iff_of_rule rfl).2 hfirst', .inr ⟨hne, hchain'⟩⟩⟩

/-- An application ends with its own parenthesis, so nothing behind it is of any account. -/
theorem reads_application_elsewhere (hportable : ∀ i, index < i → Portable input i)
    (h : Reads meaning input index (onRules application) text behind value)
    (hindex' : input'.dropBytes? index' = some (text ++ behind')) :
    Reads meaning input' index' (onRules application) text behind' value := by
  rcases reads_application_iff.1 h with h | ⟨_, h⟩
  · obtain ⟨front, name, back, rfl, hfront, hname, hback, rfl, _⟩ := reads_bareApplication_iff.1 h
    exact reads_application_iff.2 (.inl (reads_bareApplication_iff.2
      ⟨front, name, back, rfl, hfront, hname, hback, rfl, hindex'⟩))
  · replace h := (reads_deferred_iff_of_rule rfl).1 h
    obtain ⟨front, name, gap, inner, space, list, rfl, hfront, hname, hgap, hspace, rfl, hnext, _,
      _, harguments⟩ := reads_withArguments_iff.1 h
    have hclose (behind : Text) : space ++ [')'] ++ behind = space ++ ')' :: behind :=
      List.append_assoc space [')'] behind
    have hhead : input'.dropBytes? index' =
        some ('(' :: front ++ name ++ (gap ++ (inner ++ (space ++ ')' :: behind')))) := by
      rw [hindex']
      simp
    have hinner : input'.dropBytes? (index' + Text.size ('(' :: front ++ name ++ gap)) =
        some (inner ++ (space ++ ')' :: behind')) := by
      rw [← List.append_assoc] at hhead
      exact Text.dropBytes?_add_size hhead
    have hbehind : index < index + Text.size ('(' :: front ++ name ++ gap) :=
      Nat.lt_add_of_pos_right (Text.size_pos_of_ne_nil (List.cons_ne_nil _ _))
    rw [hclose] at hnext harguments
    obtain ⟨hstarts, harguments'⟩ := reads_arguments_elsewhere
      (fun i hi => hportable i (by omega)) harguments hspace hinner
    -- Up to the parenthesis the name ends as it did.
    have hnext' : NotNext (fun c => c.isAlphanum || c = '_')
        (gap ++ (inner ++ (space ++ ')' :: behind'))) := by
      rw [← List.append_assoc, ← List.append_assoc] at hnext ⊢
      exact notNext_elsewhere hnext
    have hbare : Refuses meaning input' index' (onRules bareApplication) :=
      refuses_bareApplication hfront hname hgap hstarts.append hnext' hhead
    refine reads_application_iff.2 (.inr ⟨hbare, (reads_deferred_iff_of_rule rfl).2
      (reads_withArguments_iff.2 ⟨front, name, gap, inner, space, list, rfl, hfront, hname, hgap,
        hspace, rfl, ?_, hstarts.append.notNext_isBlank, hindex', ?_⟩)⟩)
    · rw [hclose]
      exact hnext'
    · rw [hclose]
      exact harguments'

/-- Every expression is portable. -/
theorem portable (input : Text) (index : Nat) : Portable input index := by
  induction hleft : input.size - index using Nat.strong_induction_on generalizing index with
  | _ left ih =>
  -- What is inside of an application stands further on, with less of the input left.
  have hportable (i : Nat) (hi : index < i) : Portable input i := by
    intro text rest behind value hread
    have hle : i ≤ input.size := hread.evaluates.start_le_stop.trans hread.evaluates.stop_le_size
    exact ih _ (by omega) i rfl text rest behind value hread
  intro text rest behind value hread input' index' behind' hindex'
  rcases reads_expression_iff.1 hread with h | ⟨hliteral, h | ⟨_, h⟩⟩
  · exact reads_expression_iff.2 (.inl (reads_literal_elsewhere h hindex'))
  · obtain ⟨hliteral', h'⟩ := reads_name_elsewhere hliteral h hindex'
    exact reads_expression_iff.2 (.inr ⟨hliteral', .inl h'⟩)
  · obtain ⟨_, happlication, rfl⟩ := reads_mapped_iff.1 h
    exact reads_expression_of_application
      (reads_application_elsewhere hportable happlication hindex')

/-! ## §3. Texts alone -/

/-- **Standing alone.** What is read as an expression, at any place of any input, is read from its
own text. -/
theorem reads_alone (h : Reads meaning input index (onRules expression) text behind value) :
    Reads meaning text 0 (onRules expression) text [] value := by
  have hwhole := dropBytes?_zero text
  -- At the end of the input no literal and no name goes on, so the round trip reads them.
  rcases reads_expression_iff.1 h with h | ⟨hliteral, h | ⟨_, h⟩⟩
  · obtain ⟨e, rfl, hwritten⟩ := @exists_written_of_literal _ _ _ _ _ _ IsSpace h
    exact reads_of_written hwritten 0 [] ends_nil hwhole
  · obtain ⟨e, rfl, hwritten⟩ := @exists_written_of_name _ _ _ _ _ _ IsSpace hliteral h
    exact reads_of_written hwritten 0 [] ends_nil hwhole
  · obtain ⟨_, happlication, rfl⟩ := reads_mapped_iff.1 h
    exact reads_expression_of_application
      (reads_application_elsewhere (fun i _ => portable input i) happlication hwhole)

/-! ## §4. Grammars -/

/-- The match is found again in its own text: the grammar of expressions consumes all of it there,
and the value is the same. -/
def StandsAlone (success : Success (Value Expression)) : Prop :=
  ∀ session store, expressionGrammar.Reaches session store →
    (session.run store success.text 0).1 = .ok (.success ⟨success.text, 0, success.value⟩)

theorem standsAlone_of_evaluates {success : Success (Value Expression)}
    (h : Evaluates meaning input ⊤ (.parse (onRules expression) index) (.success success)) :
    StandsAlone success := by
  obtain ⟨behind, hreads⟩ := h.reads
  intro session store hreach
  exact (run_eq_ok_iff hreach).2 (reads_anchored_iff.2 ⟨reads_alone hreads, rfl⟩).evaluates

/-- **Standing alone.** The grammar of expressions starts, and in the text of a match alone it finds
that match again. This is so for what the part of expressions matches without the anchor, run by
itself at any index of any input, and for what the rule of expressions matches at any place, in any
session of the language: each argument is read by this rule, at whatever depth it stands. What has
been cut off kept no alternative from matching, not even where a conversion failed on a longer
text. -/
theorem run_alone (input : Text) :
    (∃ session store, expressionGrammar.start = .ok (session, store)) ∧
    (∀ session store, (grammarOf expression).Reaches session store →
      ∀ index success, (session.run store input index).1 = .ok (.success success) →
        StandsAlone success) ∧
    ∀ root session store, (grammarOf root).Reaches session store →
      ∀ place success,
        Evaluates session.rule? input ⊤ (.parse (.deferred .expression) place) (.success success) →
          StandsAlone success := by
  refine ⟨⟨_, _, rfl⟩, ?_, ?_⟩
  · intro session store hreach index success hrun
    exact standsAlone_of_evaluates ((run_eq_ok_iff hreach).1 hrun)
  · intro root session store hreach place success h
    obtain ⟨hmeaning, _⟩ := meaning_of_reaches hreach
    rw [hmeaning] at h
    obtain ⟨_, hrule, h⟩ := evaluates_deferred_iff.1 h
    cases hrule
    exact standsAlone_of_evaluates h

/-- A number in front of a point and a digit that is not of ASCII, where the decimal that is tried
first is found and cannot be read; and a number in an argument of an argument. -/
theorem run_alone_digits :
    (∃ session store, (grammarOf expression).Reaches session store ∧
      (session.run store "1.\u0663".toList 0).1 = .ok (.success ⟨['1'], 0, .atom (.integer 1)⟩)) ∧
    (∃ session store, expressionGrammar.Reaches session store ∧
      Evaluates session.rule? "(f(g 7)x)".toList ⊤ (.parse (.deferred .expression) 5)
        (.success ⟨['7'], 5, .atom (.integer 7)⟩)) ∧
    ∃ session store, expressionGrammar.Reaches session store ∧
      (session.run store ['1'] 0).1 = .ok (.success ⟨['1'], 0, .atom (.integer 1)⟩) ∧
      (session.run store ['7'] 0).1 = .ok (.success ⟨['7'], 0, .atom (.integer 7)⟩) := by
  have hfirst : ∃ session store, (grammarOf expression).Reaches session store ∧
      (session.run store "1.\u0663".toList 0).1 =
        .ok (.success ⟨['1'], 0, .atom (.integer 1)⟩) := by
    refine ⟨_, _, .start rfl, ?_⟩
    rfl
  -- The rule is run as a root of its own.
  have hrule : ∃ session store, (grammarOf (.deferred (.rule .expression))).Reaches session store ∧
      (session.run store "(f(g 7)x)".toList 5).1 =
        .ok (.success ⟨['7'], 5, .atom (.integer 7)⟩) := by
    refine ⟨_, _, .start rfl, ?_⟩
    rfl
  obtain ⟨ruled, ruledStore, hruled, hrun⟩ := hrule
  obtain ⟨⟨session, store, hstart⟩, _⟩ := run_alone []
  have hreach : expressionGrammar.Reaches session store := .start hstart
  have hsecond : Evaluates session.rule? "(f(g 7)x)".toList ⊤ (.parse (.deferred .expression) 5)
      (.success ⟨['7'], 5, .atom (.integer 7)⟩) := by
    rw [(meaning_of_reaches hreach).1]
    exact (run_eq_ok_iff hruled).1 hrun
  obtain ⟨part, partStore, hpart, hfound⟩ := hfirst
  refine ⟨⟨part, partStore, hpart, hfound⟩, ⟨session, store, hreach, hsecond⟩,
    session, store, hreach, ?_, ?_⟩
  · exact (run_alone _).2.1 part partStore hpart 0 _ hfound session store hreach
  · exact (run_alone _).2.2 _ session store hreach 5 _ hsecond session store hreach

end StandAlone

end Backtrack.Language
