import Backtrack.Proofs.Expression.Literals
import Backtrack.Proofs.Parser.Rounds

/-! # Applications

    What the grammar reads between parentheses, part by part. The equivalences
    of this module take an application apart down to its arguments and put it
    together from them; what the arguments are is left to what reads them.

    * `reads_bareApplication_iff`: an application without arguments.
    * `reads_withArguments_iff`: an application around its arguments.
    * `refuses_expression_of_close`: no expression begins where one ends. -/

namespace Backtrack.Language

open Expression
open Regex (NotNext)

section Applications

variable {rules : RuleName → Option (Parser RuleName Expression)} {input : Text} {index : Nat}
  {c : Char} {text behind rest : Text} {value : Value Expression}

/-! ## §1. Parts -/

theorem reads_open_iff : Reads rules input index (.pattern openPattern) text behind value ↔
    input.dropBytes? index = some (text ++ behind) ∧
      ((∃ front, text = '(' :: front ∧ IsBlank front) ∧ NotNext Text.isBlank behind) ∧
        value = .text text :=
  reads_pattern_iff_of_findAt openPattern_findAt

theorem reads_identifier_iff :
    Reads rules input index (.pattern identifierPattern) text behind value ↔
      input.dropBytes? index = some (text ++ behind) ∧
        (IsName text ∧ NotNext (fun c => c.isAlphanum || c = '_') behind) ∧ value = .text text :=
  reads_pattern_iff_of_findAt identifierPattern_findAt

theorem reads_blanks_iff : Reads rules input index (.pattern blanksPattern) text behind value ↔
    input.dropBytes? index = some (text ++ behind) ∧
      (IsBlank text ∧ NotNext Text.isBlank behind) ∧ value = .text text :=
  reads_pattern_iff_of_findAt blanksPattern_findAt

theorem reads_close_iff : Reads rules input index (.pattern closePattern) text behind value ↔
    input.dropBytes? index = some (text ++ behind) ∧
      (∃ back, text = back ++ [')'] ∧ IsBlank back) ∧ value = .text text :=
  reads_pattern_iff_of_findAt closePattern_findAt

/-- The parenthesis and the name in front of everything else. -/
theorem reads_head_iff :
    Reads rules input index (.sequence (.pattern openPattern) (.pattern identifierPattern)) text
        behind value ↔
      ∃ front name, text = '(' :: front ++ name ∧ IsBlank front ∧ IsName name ∧
        NotNext (fun c => c.isAlphanum || c = '_') behind ∧
        value = .pair (.text ('(' :: front)) (.text name) ∧
        input.dropBytes? index = some (text ++ behind) := by
  rw [reads_sequence_iff]
  simp only [reads_open_iff, reads_identifier_iff]
  constructor
  · rintro ⟨_, name, _, _, rfl, rfl, ⟨hindex, ⟨⟨front, rfl, hfront⟩, _⟩, rfl⟩,
      _, ⟨hname, hnext⟩, rfl⟩
    refine ⟨front, name, rfl, hfront, hname, hnext, rfl, ?_⟩
    rw [List.append_assoc]
    exact hindex
  · rintro ⟨front, name, rfl, hfront, hname, hnext, rfl, hindex⟩
    rw [List.append_assoc] at hindex
    refine ⟨_, name, _, _, rfl, rfl, ⟨hindex, ⟨⟨front, rfl, hfront⟩, ?_⟩, rfl⟩,
      Text.dropBytes?_add_size hindex, ⟨hname, hnext⟩, rfl⟩
    obtain ⟨c, word, rfl, hc⟩ := hname.exists_cons
    exact Regex.notNext_cons_iff.2 (isStart_of_isNameStart hc).1

/-! ## §2. Applications -/

/-- White space, or none, with the end of an application behind it. -/
theorem ends_append_close {back : Text} (hback : IsBlank back) : Ends (back ++ ')' :: rest) := by
  cases back with
  | nil => exact ends_cons_iff.2 (by unfold IsStart; decide)
  | cons c back => exact ends_cons_iff.2 (not_isStart_of_isBlank (hback c List.mem_cons_self))

/-- White space that is there, with anything behind it. -/
theorem ends_append_space {gap : Text} (hgap : IsSpace gap) : Ends (gap ++ rest) := by
  obtain ⟨hne, hblank⟩ := hgap
  obtain ⟨c, gap, rfl⟩ := List.exists_cons_of_ne_nil hne
  exact ends_cons_iff.2 (not_isStart_of_isBlank (hblank c List.mem_cons_self))

theorem reads_bareApplication_iff :
    Reads rules input index (onRules bareApplication) text behind value ↔
      ∃ front name back, text = '(' :: front ++ name ++ (back ++ [')']) ∧ IsBlank front ∧
        IsName name ∧ IsBlank back ∧ value = .pair (.text name) (.list []) ∧
        input.dropBytes? index = some (text ++ behind) := by
  rw [onRules_bareApplication, reads_mapped_iff]
  constructor
  · rintro ⟨_, hsequence, rfl⟩
    obtain ⟨_, _, _, _, rfl, rfl, hhead, hclose⟩ := reads_sequence_iff.1 hsequence
    obtain ⟨front, name, rfl, hfront, hname, _, rfl, _⟩ := reads_head_iff.1 hhead
    obtain ⟨_, ⟨back, rfl, hback⟩, rfl⟩ := reads_close_iff.1 hclose
    exact ⟨front, name, back, rfl, hfront, hname, hback, rfl, hsequence.at_index⟩
  · rintro ⟨front, name, back, rfl, hfront, hname, hback, rfl, hindex⟩
    rw [List.append_assoc] at hindex
    -- The name is greedy, and ends in front of the white space or the parenthesis.
    have hnext : NotNext (fun c => c.isAlphanum || c = '_') (back ++ [')'] ++ behind) := by
      rw [List.append_assoc]
      exact (ends_append_close hback).notNext fun _ => isStart_of_isNameRest
    refine ⟨_, reads_sequence_iff.2 ⟨_, _, _, _, rfl, rfl, reads_head_iff.2
      ⟨front, name, rfl, hfront, hname, hnext, rfl, hindex⟩, reads_close_iff.2
      ⟨Text.dropBytes?_add_size hindex, ⟨back, rfl, hback⟩, rfl⟩⟩, rfl⟩

/-- The arguments stand between white space, and the name ends in front of it. -/
theorem reads_withArguments_iff :
    Reads rules input index (onRules applicationWithArguments) text behind value ↔
      ∃ front name gap inner space list,
        text = '(' :: front ++ name ++ gap ++ inner ++ (space ++ [')']) ∧ IsBlank front ∧
        IsName name ∧ IsBlank gap ∧ IsBlank space ∧ value = .pair (.text name) list ∧
        NotNext (fun c => c.isAlphanum || c = '_') (gap ++ (inner ++ (space ++ [')'] ++ behind))) ∧
        NotNext Text.isBlank (inner ++ (space ++ [')'] ++ behind)) ∧
        input.dropBytes? index = some (text ++ behind) ∧
        Reads rules input (index + Text.size ('(' :: front ++ name ++ gap)) (onRules arguments)
          inner (space ++ [')'] ++ behind) list := by
  rw [onRules_applicationWithArguments, reads_mapped_iff]
  constructor
  · rintro ⟨_, hsequence, rfl⟩
    -- Each sequence is taken apart at its end: the parenthesis, the arguments, the white space.
    obtain ⟨_, _, _, _, rfl, rfl, hinner, hclose⟩ := reads_sequence_iff.1 hsequence
    obtain ⟨_, inner, _, list, rfl, rfl, hgap, harguments⟩ := reads_sequence_iff.1 hinner
    obtain ⟨_, gap, _, _, rfl, rfl, hhead, hblanks⟩ := reads_sequence_iff.1 hgap
    obtain ⟨front, name, rfl, hfront, hname, hnext, rfl, _⟩ := reads_head_iff.1 hhead
    obtain ⟨_, ⟨hblank, hstart⟩, rfl⟩ := reads_blanks_iff.1 hblanks
    obtain ⟨_, ⟨space, rfl, hspace⟩, rfl⟩ := reads_close_iff.1 hclose
    exact ⟨front, name, gap, inner, space, list, rfl, hfront, hname, hblank, hspace, rfl, hnext,
      hstart, hsequence.at_index, harguments⟩
  · rintro ⟨front, name, gap, inner, space, list, rfl, hfront, hname, hgap, hspace, rfl, hnext,
      hstart, hindex, harguments⟩
    have hclose : input.dropBytes? (index + Text.size ('(' :: front ++ name ++ gap ++ inner)) =
        some (space ++ [')'] ++ behind) := by
      rw [List.append_assoc] at hindex
      exact Text.dropBytes?_add_size hindex
    have hhead : input.dropBytes? index =
        some ('(' :: front ++ name ++ (gap ++ (inner ++ (space ++ [')'] ++ behind)))) := by
      rw [hindex]
      simp
    refine ⟨_, reads_sequence_iff.2 ⟨_, _, _, _, rfl, rfl, reads_sequence_iff.2
      ⟨_, inner, _, list, rfl, rfl, reads_sequence_iff.2 ⟨_, gap, _, _, rfl, rfl, reads_head_iff.2
        ⟨front, name, rfl, hfront, hname, hnext, rfl, hhead⟩, reads_blanks_iff.2
        ⟨Text.dropBytes?_add_size hhead, ⟨hgap, hstart⟩, rfl⟩⟩, harguments⟩, reads_close_iff.2
      ⟨hclose, ⟨space, rfl, hspace⟩, rfl⟩⟩, rfl⟩

/-- Without arguments comes first. -/
theorem reads_application_iff : Reads rules input index (onRules application) text behind value ↔
    Reads rules input index (onRules bareApplication) text behind value ∨
      Refuses rules input index (onRules bareApplication) ∧
        Reads rules input index (.deferred .withArguments) text behind value := by
  simp only [onRules_application, reads_choice_cons_iff, not_reads_choice_nil, and_false, or_false]

/-- Literals come before names, and names before applications. -/
theorem reads_expression_iff : Reads rules input index (onRules expression) text behind value ↔
    Reads rules input index (onRules literal) text behind value ∨
      Refuses rules input index (onRules literal) ∧
        (Reads rules input index (.mapped (.pattern identifierPattern) ofName) text behind value ∨
          Refuses rules input index (.mapped (.pattern identifierPattern) ofName) ∧
            Reads rules input index (.mapped (onRules application) ofParts) text behind value) := by
  simp only [onRules_expression, reads_choice_cons_iff, not_reads_choice_nil, and_false, or_false]

/-- The name and the arguments become an expression. -/
theorem ofParts_pair (name : Text) (arguments : List Expression) :
    ofParts (.pair (.text name) (.list (arguments.map Value.atom))) =
      .atom (.application name arguments) := by
  have hvalues : (arguments.map Value.atom).filterMap ofValue? = arguments := by
    simp [List.filterMap_map, Function.comp_def, ofValue?]
  simp only [ofParts, hvalues]

/-! ## §3. Refusals -/

/-- At a parenthesis of either kind there is no literal. -/
theorem refuses_literal_of_parenthesis (hindex : input.dropBytes? index = some (c :: rest))
    (hc : c = '(' ∨ c = ')') : Refuses rules input index (onRules literal) := by
  rcases hc with rfl | rfl
  · exact refuses_literal (refuses_string hindex (by decide)) (refuses_double hindex (by decide))
      (refuses_integer hindex (by decide))
  · exact refuses_literal (refuses_string hindex (by decide)) (refuses_double hindex (by decide))
      (refuses_integer hindex (by decide))

/-- Where the name has arguments behind it, the application is none without arguments. -/
theorem refuses_bareApplication {front name gap inner : Text} (hfront : IsBlank front)
    (hname : IsName name) (hgap : IsBlank gap) (hinner : Starts inner)
    (hnext : NotNext (fun c => c.isAlphanum || c = '_') (gap ++ inner))
    (hindex : input.dropBytes? index = some ('(' :: front ++ name ++ (gap ++ inner))) :
    Refuses rules input index (onRules bareApplication) := by
  have hhead : Reads rules input index
      (.sequence (.pattern openPattern) (.pattern identifierPattern)) ('(' :: front ++ name)
      (gap ++ inner) (.pair (.text ('(' :: front)) (.text name)) :=
    reads_head_iff.2 ⟨front, name, rfl, hfront, hname, hnext, rfl, hindex⟩
  rw [onRules_bareApplication]
  refine refuses_mapped (refuses_sequence_right hhead (refuses_pattern_of_forall ?_))
  intro other behind hother hfound
  obtain ⟨_, _, space, rfl, hspace⟩ := closePattern_findAt.1 hfound
  have hsame : space ++ ')' :: behind = gap ++ inner := by
    have heq := Option.some.inj (hother.symm.trans (Text.dropBytes?_add_size hindex))
    rw [← heq]
    simp
  -- Both sides go on behind their white space, one of them with the parenthesis.
  have hclose : (space ++ ')' :: behind).dropWhile Text.isBlank = ')' :: behind :=
    Regex.dropWhile_append_eq_iff.2 ⟨hspace, Regex.notNext_cons_iff.2 (by decide)⟩
  have hstart : (gap ++ inner).dropWhile Text.isBlank = inner :=
    Regex.dropWhile_append_eq_iff.2 ⟨hgap, hinner.notNext_isBlank⟩
  rw [hsame, hstart] at hclose
  obtain ⟨c, rest, rfl, hc⟩ := hinner
  cases hclose
  exact hc.2 rfl

/-- What is read as an application is read as an expression: neither a literal nor a name begins
where it does. -/
theorem reads_expression_of_application
    (h : Reads meaning input index (onRules application) text behind value) :
    Reads meaning input index (onRules expression) text behind (ofParts value) := by
  obtain ⟨more, hmore⟩ : ∃ more, text = '(' :: more := by
    rcases reads_application_iff.1 h with h | ⟨_, h⟩
    · obtain ⟨_, _, _, rfl, _⟩ := reads_bareApplication_iff.1 h
      exact ⟨_, rfl⟩
    · obtain ⟨_, _, _, _, _, _, rfl, _⟩ :=
        reads_withArguments_iff.1 ((reads_deferred_iff_of_rule rfl).1 h)
      exact ⟨_, rfl⟩
  have hindex := h.at_index
  rw [hmore] at hindex
  exact reads_expression_iff.2 (.inr ⟨refuses_literal_of_parenthesis hindex (.inl rfl),
    .inr ⟨refuses_mapped (refuses_identifier hindex (by decide)),
      reads_mapped_iff.2 ⟨value, h, rfl⟩⟩⟩)

/-- No expression begins at the end of an application. -/
theorem refuses_expression_of_close (hindex : input.dropBytes? index = some (')' :: rest)) :
    Refuses meaning input index (onRules expression) := by
  have hopen : Refuses meaning input index (.pattern openPattern) :=
    refuses_open hindex (by decide)
  have hbare : Refuses meaning input index (onRules bareApplication) :=
    refuses_mapped (refuses_sequence_left (refuses_sequence_left hopen))
  have harguments : Refuses meaning input index (onRules applicationWithArguments) :=
    refuses_mapped (refuses_sequence_left (refuses_sequence_left (refuses_sequence_left
      (refuses_sequence_left hopen))))
  rw [onRules_expression, onRules_application]
  apply refuses_choice_iff.2
  intro parser hmem
  simp only [List.mem_cons, List.not_mem_nil, or_false] at hmem
  rcases hmem with rfl | rfl | rfl
  · exact refuses_literal_of_parenthesis hindex (.inr rfl)
  · exact refuses_mapped (refuses_identifier hindex (by decide))
  · refine refuses_mapped (refuses_choice_iff.2 fun parser hmem => ?_)
    simp only [List.mem_cons, List.not_mem_nil, or_false] at hmem
    rcases hmem with rfl | rfl
    · exact hbare
    · exact refuses_deferred rfl harguments

end Applications

end Backtrack.Language
