import Backtrack.Proofs.Expression.Rules
import Backtrack.Proofs.Expression.Writing
import Backtrack.Proofs.Parser.Reading

/-! # Literals and names

    What the grammar reads where no application stands. A literal or a name is
    read from each of its texts, if nothing follows with which it goes on, and
    whatever is read is such a text.

    * `refuses_literal`: where a literal is not even begun.
    * `reads_string`, `reads_double`, `reads_integer`: reading.
    * `exists_written_of_literal`, `exists_written_of_name`: what is read. -/

namespace Backtrack.Language

open Expression
open Regex (NotNext)

section Literals

variable {rules : RuleName → Option (Parser RuleName Expression)} {input : Text} {index : Nat}
  {c : Char} {text content name rest behind : Text} {value : Value Expression}

/-! ## §1. Refusals -/

/-- A pattern that finds only what does not stand at the index is refused. -/
theorem refuses_pattern_of_forall {pattern : Pattern}
    (h : ∀ text behind, input.dropBytes? index = some (text ++ behind) →
      pattern.findAt input index ≠ some text) :
    Refuses rules input index (.pattern pattern) := by
  refine refuses_pattern_iff.2 (Option.eq_none_iff_forall_ne_some.2 fun text hfound => ?_)
  have hmatch : Evaluates rules input ⊤ (.parse (.pattern pattern) index)
      (.success ⟨text, index, .text text⟩) := by
    apply evaluates_pattern_iff.2
    simp only [matchPattern, hfound]
  obtain ⟨behind, hreads⟩ := hmatch.reads
  exact h text behind hreads.at_index hfound

/-- A pattern whose matches begin otherwise is refused. -/
theorem refuses_pattern_of_first {pattern : Pattern} {p : Char → Prop}
    (hfirst : ∀ text, pattern.findAt input index = some text → ∃ d rest, text = d :: rest ∧ p d)
    (hindex : input.dropBytes? index = some (c :: rest)) (hc : ¬ p c) :
    Refuses rules input index (.pattern pattern) := by
  apply refuses_pattern_of_forall
  intro text behind hother hfound
  obtain ⟨d, more, rfl, hd⟩ := hfirst text hfound
  cases hindex.symm.trans hother
  exact hc hd

theorem refuses_string (hindex : input.dropBytes? index = some (c :: rest)) (hc : c ≠ '"') :
    Refuses rules input index (.pattern stringPattern) := by
  refine @refuses_pattern_of_first _ _ _ _ _ _ (· = '"') (fun text hfound => ?_) hindex hc
  obtain ⟨_, _, content, rfl, _⟩ := stringPattern_findAt.1 hfound
  exact ⟨'"', _, rfl, rfl⟩

theorem refuses_double (hindex : input.dropBytes? index = some (c :: rest))
    (hc : ¬ (Text.isDecimalDigit c = true ∨ c ∈ ['.', '-', 'I', 'N'])) :
    Refuses rules input index (.pattern doublePattern) :=
  refuses_pattern_of_first (fun _ hfound => (doublePattern_sound hfound).exists_cons) hindex hc

theorem refuses_integer (hindex : input.dropBytes? index = some (c :: rest))
    (hc : Text.isDecimalDigit c = false) :
    Refuses rules input index (.pattern integerPattern) := by
  refine @refuses_pattern_of_first _ _ _ _ _ _ (Text.isDecimalDigit · = true)
    (fun text hfound => ?_) hindex (by simp [hc])
  obtain ⟨_, _, hne, hdigits, _⟩ := integerPattern_findAt.1 hfound
  obtain ⟨d, more, rfl⟩ := List.exists_cons_of_ne_nil hne
  exact ⟨d, more, rfl, hdigits d List.mem_cons_self⟩

theorem refuses_identifier (hindex : input.dropBytes? index = some (c :: rest))
    (hc : (c.isAlpha || c = '_') = false) :
    Refuses rules input index (.pattern identifierPattern) := by
  refine @refuses_pattern_of_first _ _ _ _ _ _ (fun c => (c.isAlpha || c = '_') = true)
    (fun text hfound => ?_) hindex (by simp [hc])
  obtain ⟨_, _, hname, _⟩ := identifierPattern_findAt.1 hfound
  exact hname.exists_cons

theorem refuses_open (hindex : input.dropBytes? index = some (c :: rest)) (hc : c ≠ '(') :
    Refuses rules input index (.pattern openPattern) := by
  refine @refuses_pattern_of_first _ _ _ _ _ _ (· = '(') (fun text hfound => ?_) hindex hc
  obtain ⟨_, _, ⟨space, rfl, _⟩, _⟩ := openPattern_findAt.1 hfound
  exact ⟨'(', space, rfl, rfl⟩

/-- A literal is refused where each of its kinds is. -/
theorem refuses_literal_iff : Refuses rules input index (onRules literal) ↔
    Refuses rules input index (.mapped (.pattern stringPattern) ofQuoted) ∧
      Refuses rules input index (.converted (.pattern doublePattern) ofDecimal) ∧
        Refuses rules input index (.converted (.pattern integerPattern) ofDigits) := by
  simp only [onRules_literal, refuses_choice_iff, List.forall_mem_cons, List.not_mem_nil,
    false_implies, implies_true, and_true]

/-- Where none of its patterns matches, a literal is refused. -/
theorem refuses_literal (hstring : Refuses rules input index (.pattern stringPattern))
    (hdouble : Refuses rules input index (.pattern doublePattern))
    (hinteger : Refuses rules input index (.pattern integerPattern)) :
    Refuses rules input index (onRules literal) :=
  refuses_literal_iff.2
    ⟨refuses_mapped hstring, refuses_converted hdouble, refuses_converted hinteger⟩

/-! ## §2. Literals -/

/-- A literal is what its first pattern reads that is not refused. -/
theorem reads_literal_iff : Reads rules input index (onRules literal) text behind value ↔
    Reads rules input index (.mapped (.pattern stringPattern) ofQuoted) text behind value ∨
      Refuses rules input index (.mapped (.pattern stringPattern) ofQuoted) ∧
        (Reads rules input index (.converted (.pattern doublePattern) ofDecimal) text behind value ∨
          Refuses rules input index (.converted (.pattern doublePattern) ofDecimal) ∧
            Reads rules input index (.converted (.pattern integerPattern) ofDigits) text behind
              value) := by
  simp only [onRules_literal, reads_choice_cons_iff, not_reads_choice_nil, and_false, or_false]

/-- The quotation marks at both ends are all that is taken off. -/
theorem unquote_quoted (h : '"' ∉ content) : unquote ('"' :: content ++ ['"']) = content := by
  have hdrop {content : Text} (h : '"' ∉ content) (hne : content ≠ []) (more : Text) :
      (content ++ more).dropWhile (· = '"') = content ++ more := by
    cases content with
    | nil => exact absurd rfl hne
    | cons c content =>
      have hc : c ≠ '"' := fun heq => h (heq ▸ List.mem_cons_self)
      simp [hc]
  by_cases hne : content = []
  · subst hne
    rfl
  · have hback := hdrop (mt List.mem_reverse.1 h) (mt List.reverse_eq_nil_iff.1 hne) []
    rw [List.append_nil] at hback
    simp [unquote, hdrop h hne, hback]

theorem reads_string (hne : content ≠ []) (hquote : '"' ∉ content)
    (hindex : input.dropBytes? index = some (('"' :: content ++ ['"']) ++ behind)) :
    Reads rules input index (onRules literal) ('"' :: content ++ ['"']) behind
      (.atom (.string content)) := by
  have hfound := stringPattern_findAt.2 ⟨behind, hindex, content, rfl, hne, hquote⟩
  refine reads_literal_iff.2 (.inl (reads_mapped_iff.2
    ⟨_, reads_pattern_iff.2 ⟨hindex, hfound, rfl⟩, ?_⟩))
  rw [ofQuoted, unquote_quoted hquote]

theorem reads_double {x : Float} (h : IsDouble Char.isDigit text)
    (hread : Decimal.read text = .ok x) (hends : Ends behind)
    (hindex : input.dropBytes? index = some (text ++ behind)) :
    Reads rules input index (onRules literal) text behind (.atom (.double x)) := by
  have hdouble : IsDouble Text.isDecimalDigit text := h.imp fun _ _ => isDecimalDigit_of_isDigit
  have hnext : NotNext (fun c => Text.isDecimalDigit c || c = 'e' || c = 'E') behind := by
    apply hends.notNext
    intro c hc
    simp only [Bool.or_eq_true, decide_eq_true_eq] at hc
    rcases hc with (hc | rfl) | rfl
    · exact isStart_of_isDecimalDigit hc
    · exact isStart_of_isNameStart rfl
    · exact isStart_of_isNameStart rfl
  have hfound := doublePattern_complete hdouble hindex hnext
  refine reads_literal_iff.2 (.inr ⟨?_, .inl (reads_converted_iff.2
    ⟨_, reads_pattern_iff.2 ⟨hindex, hfound, rfl⟩, ?_⟩)⟩)
  · -- A decimal does not begin with a quotation mark, so the pattern of strings is refused.
    obtain ⟨c, rest, rfl, hc⟩ := hdouble.exists_cons
    apply refuses_mapped
    apply refuses_string hindex
    rintro rfl
    exact absurd hc (by decide)
  · simp only [ofDecimal, hread]

/-- Digits that an expression ends with are no decimal. -/
theorem not_isDouble_of_digits {digits : Text} (hne : digits ≠ [])
    (hdigits : ∀ c ∈ digits, Text.isDecimalDigit c = true) (hends : Ends behind)
    (heq : text ++ rest = digits ++ behind) : ¬ IsDouble Text.isDecimalDigit text := by
  intro h
  have hdrop := (Regex.dropWhile_append_eq_iff.2
    ⟨hdigits, hends.notNext fun _ => isStart_of_isDecimalDigit⟩)
  obtain ⟨d, digits, rfl⟩ := List.exists_cons_of_ne_nil hne
  have hd := hdigits d List.mem_cons_self
  have hfirst {c : Char} {more : Text} (hmore : c :: more = d :: (digits ++ behind))
      (hc : Text.isDecimalDigit c = false) : False := by
    cases hmore
    rw [hd] at hc
    cases hc
  cases h with
  | @number sign mantissa exponent hsign hmantissa _ =>
    rcases hsign with rfl | rfl
    · cases hmantissa with
      | fraction _ _ => exact hfirst heq (by decide)
      | @whole whole places _ hwhole _ =>
        -- Behind their digits both sides go on, one of them with a point.
        have hpoint : (whole ++ '.' :: (places ++ exponent ++ rest)).dropWhile
            Text.isDecimalDigit = '.' :: (places ++ exponent ++ rest) :=
          Regex.dropWhile_append_eq_iff.2 ⟨hwhole, Regex.notNext_cons_iff.2 (by decide)⟩
        have hsame : whole ++ '.' :: (places ++ exponent ++ rest) = d :: digits ++ behind := by
          rw [← heq]
          simp
        rw [hsame, hdrop] at hpoint
        subst hpoint
        exact ends_cons_iff.1 hends (by unfold IsStart; decide)
    · exact hfirst heq (by decide)
  | name hsign hname =>
    rcases hsign with rfl | rfl
    · rcases hname with rfl | rfl
      · exact hfirst heq (by decide)
      · exact hfirst heq (by decide)
    · exact hfirst heq (by decide)

theorem reads_integer (hne : text ≠ []) (hdigits : ∀ c ∈ text, c.isDigit = true)
    (hsize : (Decimal.valueOf text : Int) ≤ 2 ^ 63 - 1) (hends : Ends behind)
    (hindex : input.dropBytes? index = some (text ++ behind)) :
    Reads rules input index (onRules literal) text behind
      (.atom (.integer (Decimal.valueOf text))) := by
  have hdecimal (c : Char) (hmem : c ∈ text) : Text.isDecimalDigit c = true :=
    isDecimalDigit_of_isDigit (hdigits c hmem)
  have hnext : NotNext Text.isDecimalDigit behind :=
    hends.notNext fun _ => isStart_of_isDecimalDigit
  have hfound := integerPattern_findAt.2 ⟨behind, hindex, hne, hdecimal, hnext⟩
  refine reads_literal_iff.2 (.inr ⟨?_, .inr ⟨?_, reads_converted_iff.2
    ⟨_, reads_pattern_iff.2 ⟨hindex, hfound, rfl⟩, ?_⟩⟩⟩)
  · obtain ⟨c, rest, rfl⟩ := List.exists_cons_of_ne_nil hne
    apply refuses_mapped
    apply refuses_string hindex
    rintro rfl
    exact absurd (hdigits '"' List.mem_cons_self) (by decide)
  · -- The pattern of doubles comes first: it finds no part of the digits, and nothing beyond them.
    apply refuses_converted
    apply refuses_pattern_of_forall
    intro other rest hother hmatch
    exact not_isDouble_of_digits hne hdecimal hends
      (Option.some.inj (hother.symm.trans hindex)) (doublePattern_sound hmatch)
  · simp only [ofDigits, (Numeral.readWhole_eq_ok_iff hne hdecimal).2 ⟨hdigits, rfl, hsize⟩]

/-- Whatever is read as a literal is one of its texts. -/
theorem exists_written_of_literal {Gap : Text → Prop}
    (h : Reads rules input index (onRules literal) text behind value) :
    ∃ e, value = .atom e ∧ Written Gap e text := by
  rcases reads_literal_iff.1 h with h | ⟨_, h | ⟨_, h⟩⟩
  · obtain ⟨_, hpattern, rfl⟩ := reads_mapped_iff.1 h
    obtain ⟨_, hfound, rfl⟩ := reads_pattern_iff.1 hpattern
    obtain ⟨_, _, content, rfl, hne, hquote⟩ := stringPattern_findAt.1 hfound
    refine ⟨.string content, ?_, .string hne hquote⟩
    rw [ofQuoted, unquote_quoted hquote]
  · obtain ⟨_, hpattern, hconvert⟩ := reads_converted_iff.1 h
    obtain ⟨_, hfound, rfl⟩ := reads_pattern_iff.1 hpattern
    simp only [ofDecimal] at hconvert
    split at hconvert
    · next x hread =>
      cases hconvert
      -- The pattern finds the digits of every script, and the reader takes those of ASCII only.
      refine ⟨.double x, rfl, .double ?_ hread⟩
      exact (doublePattern_sound hfound).imp fun c hmem hc =>
        isDigit_of_isDecimalDigit hc (Decimal.isAscii_of_read hread c hmem)
    · cases hconvert
  · obtain ⟨_, hpattern, hconvert⟩ := reads_converted_iff.1 h
    obtain ⟨_, hfound, rfl⟩ := reads_pattern_iff.1 hpattern
    obtain ⟨_, _, hne, hdecimal, _⟩ := integerPattern_findAt.1 hfound
    simp only [ofDigits] at hconvert
    split at hconvert
    · next n hread =>
      cases hconvert
      obtain ⟨hdigits, rfl, hsize⟩ := (Numeral.readWhole_eq_ok_iff hne hdecimal).1 hread
      exact ⟨.integer (Decimal.valueOf text), rfl, .integer hne hdigits hsize⟩
    · cases hconvert

/-! ## §3. Names -/

/-- A name that begins like no double, where it ends, is none. -/
theorem not_isDouble_of_name (hname : IsName name) (hnan : ¬ "NaN".toList <+: name)
    (hinfinity : ¬ "Infinity".toList <+: name) (hends : Ends behind)
    (heq : text ++ rest = name ++ behind) : ¬ IsDouble Text.isDecimalDigit text := by
  intro h
  have hword {word more : Text} (hletters : word.all Char.isAlpha = true)
      (hsame : word ++ more = text ++ rest) : word <+: name := by
    refine prefix_of_append_eq hends (fun c hmem => ?_) (hsame.trans heq)
    have hc := List.all_eq_true.1 hletters c hmem
    exact isStart_of_isNameStart (by rw [hc]; rfl)
  obtain ⟨d, word, rfl, hd⟩ := hname.exists_cons
  have hfirst {c : Char} {more : Text} (hmore : c :: more = d :: (word ++ behind))
      (hc : (c.isAlpha || c = '_') = false) : False := by
    cases hmore
    rw [hd] at hc
    cases hc
  cases h with
  | number hsign hmantissa _ =>
    rcases hsign with rfl | rfl
    · obtain ⟨c, more, rfl, hdigit | rfl⟩ := hmantissa.exists_cons
      · exact hfirst heq (not_isNameStart_of_isDecimalDigit hdigit)
      · exact hfirst heq (by decide)
    · exact hfirst heq (by decide)
  | name hsign hdouble =>
    rcases hsign with rfl | rfl
    · rcases hdouble with rfl | rfl
      · exact hinfinity (hword rfl rfl)
      · exact hnan (hword rfl rfl)
    · exact hfirst heq (by decide)

/-- Where a name stands that begins like no double, a literal is refused. -/
theorem refuses_literal_of_name (hname : IsName name) (hnan : ¬ "NaN".toList <+: name)
    (hinfinity : ¬ "Infinity".toList <+: name) (hends : Ends behind)
    (hindex : input.dropBytes? index = some (name ++ behind)) :
    Refuses rules input index (onRules literal) := by
  apply refuses_literal
  · obtain ⟨c, word, rfl, hc⟩ := hname.exists_cons
    apply refuses_string hindex
    rintro rfl
    exact absurd hc (by decide)
  · apply refuses_pattern_of_forall
    intro other rest hother hmatch
    exact not_isDouble_of_name hname hnan hinfinity hends
      (Option.some.inj (hother.symm.trans hindex)) (doublePattern_sound hmatch)
  · obtain ⟨c, word, rfl, hc⟩ := hname.exists_cons
    refine refuses_integer hindex (Bool.eq_false_iff.2 fun hdigit => ?_)
    rw [not_isNameStart_of_isDecimalDigit hdigit] at hc
    cases hc

/-- Where a name stands that begins like a double, a literal is read. -/
theorem not_refuses_literal_of_prefix {word : Text} (hword : IsDoubleName word)
    (hbegins : word <+: name) (hindex : input.dropBytes? index = some (name ++ behind)) :
    ¬ Refuses rules input index (onRules literal) := by
  obtain ⟨more, rfl⟩ := hbegins
  rw [List.append_assoc] at hindex
  obtain ⟨x, hread⟩ : ∃ x, Decimal.read word = .ok x := by
    rcases hword with rfl | rfl
    · exact ⟨_, rfl⟩
    · exact ⟨_, rfl⟩
  have hfound := doublePattern_findAt_name (.inl rfl) hword hindex
  have hstring : Refuses rules input index (.mapped (.pattern stringPattern) ofQuoted) := by
    rcases hword with rfl | rfl
    · exact refuses_mapped (refuses_string hindex (by decide))
    · exact refuses_mapped (refuses_string hindex (by decide))
  have hreads : Reads rules input index (onRules literal) word (more ++ behind)
      (.atom (.double x)) := by
    refine reads_literal_iff.2 (.inr ⟨hstring, .inl (reads_converted_iff.2
      ⟨_, reads_pattern_iff.2 ⟨hindex, hfound, rfl⟩, ?_⟩)⟩)
    simp only [ofDecimal, hread]
  exact hreads.not_refuses

/-- Whatever is read as a name where no literal is, is a text of an identifier. -/
theorem exists_written_of_name {Gap : Text → Prop}
    (hliteral : Refuses rules input index (onRules literal))
    (h : Reads rules input index (.mapped (.pattern identifierPattern) ofName) text behind value) :
    ∃ e, value = .atom e ∧ Written Gap e text := by
  obtain ⟨_, hpattern, rfl⟩ := reads_mapped_iff.1 h
  obtain ⟨hindex, hfound, rfl⟩ := reads_pattern_iff.1 hpattern
  obtain ⟨_, _, hname, _⟩ := identifierPattern_findAt.1 hfound
  refine ⟨.identifier text, rfl, .identifier hname ?_ ?_⟩
  · exact fun hbegins => not_refuses_literal_of_prefix (.inr rfl) hbegins hindex hliteral
  · exact fun hbegins => not_refuses_literal_of_prefix (.inl rfl) hbegins hindex hliteral

end Literals

end Backtrack.Language
