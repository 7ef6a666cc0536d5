import Backtrack.Proofs.Parser.Extent

/-! # What a parser reads

    A match told in texts instead of offsets: what stands at an index begins
    with the text that is matched, and goes on with what is left behind it.
    For the combinators of sequences, choices and conversions this gives
    equivalences, which serve to put a match together and to take it apart.

    * `Evaluates.reads`: every success is a text that is read.
    * `reads_sequence_iff` and its kind: one equivalence for each combinator.
    * `Reads.not_refuses`: what is read is not refused. -/

namespace Backtrack

variable {ρ α : Type}

/-- The parser matches this text, with this behind it. -/
structure Reads (rules : ρ → Option (Parser ρ α)) (input : Text) (index : Nat)
    (parser : Parser ρ α) (text behind : Text) (value : Value α) : Prop where
  at_index : input.dropBytes? index = some (text ++ behind)
  evaluates : Evaluates rules input ⊤ (.parse parser index) (.success ⟨text, index, value⟩)

/-- The parser fails. -/
def Refuses (rules : ρ → Option (Parser ρ α)) (input : Text) (index : Nat)
    (parser : Parser ρ α) : Prop :=
  ∃ failure, Evaluates rules input ⊤ (.parse parser index) (.failure failure)

/-- Behind a text its size further on stands what is left. -/
theorem Text.dropBytes?_add_size {input text behind : Text} {index : Nat}
    (h : input.dropBytes? index = some (text ++ behind)) :
    input.dropBytes? (index + text.size) = some behind := by
  obtain ⟨front, rfl, rfl⟩ := Text.dropBytes?_eq_some_iff.1 h
  exact Text.dropBytes?_eq_some_iff.2 ⟨front ++ text, by simp, by simp⟩

theorem Text.slice?_of_dropBytes? {input text behind : Text} {index : Nat}
    (h : input.dropBytes? index = some (text ++ behind)) :
    input.slice? index (index + text.size) = some text := by
  obtain ⟨front, rfl, rfl⟩ := Text.dropBytes?_eq_some_iff.1 h
  exact Text.slice?_eq_some_iff.2 ⟨front, behind, by simp, rfl, rfl⟩

theorem Text.dropBytes?_of_slice? {input text : Text} {start stop : Nat}
    (h : input.slice? start stop = some text) :
    ∃ behind, input.dropBytes? start = some (text ++ behind) := by
  obtain ⟨front, behind, rfl, hfront, _⟩ := Text.slice?_eq_some_iff.1 h
  exact ⟨behind, Text.dropBytes?_eq_some_iff.2 ⟨front, by simp, hfront⟩⟩

section Reads

variable {rules : ρ → Option (Parser ρ α)} {input : Text} {index : Nat}
  {parser first next body : Parser ρ α} {text behind text' behind' : Text} {value value' : Value α}
  {success : Success (Value α)}

/-! ## §1. Reading and successes -/

/-- Every success is a text that is read. -/
theorem Evaluates.reads
    (h : Evaluates rules input ⊤ (.parse parser index) (.success success)) :
    ∃ behind, Reads rules input index parser success.text behind success.value := by
  have hslice : success.IsSlice input index := h.sliced
  obtain ⟨text, start, value⟩ := success
  obtain ⟨rfl, htext⟩ := hslice
  obtain ⟨behind, hbehind⟩ := Text.dropBytes?_of_slice? htext
  exact ⟨behind, hbehind, h⟩

/-- What is read is not refused. -/
theorem Reads.not_refuses (h : Reads rules input index parser text behind value) :
    ¬ Refuses rules input index parser := by
  rintro ⟨failure, hfailure⟩
  cases h.evaluates.deterministic hfailure

/-! ## §2. The combinators -/

/-- A text reads itself. -/
theorem reads_text_iff {word : Text} :
    Reads rules input index (.literal word) text behind value ↔
      text = word ∧ value = .text word ∧ input.dropBytes? index = some (word ++ behind) := by
  constructor
  · rintro ⟨hindex, h⟩
    have hmatch := evaluates_literal_iff.1 h
    simp only [matchLiteral] at hmatch
    split at hmatch
    · cases hmatch
      exact ⟨rfl, rfl, hindex⟩
    · cases hmatch
  · rintro ⟨rfl, rfl, hindex⟩
    have hafter : text.after? (text ++ behind) = some behind := Text.after?_eq_some_iff.2 rfl
    refine ⟨hindex, evaluates_literal_iff.2 ?_⟩
    simp only [matchLiteral, hindex, Option.bind_some, hafter]

/-- A character is refused where something else stands. -/
theorem refuses_character {c : Char} (hindex : input.dropBytes? index = some behind)
    (h : behind.head? ≠ some c) : Refuses rules input index (.literal [c]) := by
  have hafter : Text.after? [c] behind = none := by
    refine Option.eq_none_iff_forall_ne_some.2 fun rest hrest => h ?_
    rw [Text.after?_eq_some_iff.1 hrest]
    rfl
  refine ⟨.expectedText [c] index, evaluates_literal_iff.2 ?_⟩
  simp only [matchLiteral, hindex, Option.bind_some, hafter]

theorem reads_pattern_iff {pattern : Pattern} :
    Reads rules input index (.pattern pattern) text behind value ↔
      input.dropBytes? index = some (text ++ behind) ∧
        pattern.findAt input index = some text ∧ value = .text text := by
  constructor
  · rintro ⟨hindex, h⟩
    have hmatch := evaluates_pattern_iff.1 h
    simp only [matchPattern] at hmatch
    split at hmatch
    · next found hfound =>
      cases hmatch
      exact ⟨hindex, hfound, rfl⟩
    · cases hmatch
  · rintro ⟨hindex, hfound, rfl⟩
    refine ⟨hindex, evaluates_pattern_iff.2 ?_⟩
    simp only [matchPattern, hfound]

/-- A pattern reads what it finds, with that behind it with which it finds it. -/
theorem reads_pattern_iff_of_findAt {pattern : Pattern} {P : Text → Prop}
    (h : pattern.findAt input index = some text ↔
      ∃ behind, input.dropBytes? index = some (text ++ behind) ∧ P behind) :
    Reads rules input index (.pattern pattern) text behind value ↔
      input.dropBytes? index = some (text ++ behind) ∧ P behind ∧ value = .text text := by
  rw [reads_pattern_iff, h]
  constructor
  · rintro ⟨hindex, ⟨other, hother, hP⟩, rfl⟩
    obtain rfl : other = behind :=
      List.append_cancel_left (Option.some.inj (hother.symm.trans hindex))
    exact ⟨hindex, hP, rfl⟩
  · rintro ⟨hindex, hP, rfl⟩
    exact ⟨hindex, ⟨behind, hindex, hP⟩, rfl⟩

theorem refuses_pattern_iff {pattern : Pattern} :
    Refuses rules input index (.pattern pattern) ↔ pattern.findAt input index = none := by
  unfold Refuses
  simp only [evaluates_pattern_iff, matchPattern]
  cases pattern.findAt input index <;> simp

/-- A sequence reads what its parts read one behind the other. -/
theorem reads_sequence_iff : Reads rules input index (.sequence first next) text behind value ↔
    ∃ text₁ text₂ value₁ value₂, text = text₁ ++ text₂ ∧ value = .pair value₁ value₂ ∧
      Reads rules input index first text₁ (text₂ ++ behind) value₁ ∧
      Reads rules input (index + text₁.size) next text₂ behind value₂ := by
  constructor
  · rintro ⟨hindex, h⟩
    rcases evaluates_sequence_iff.1 h with ⟨_, _, h⟩ | ⟨front, h₁, back, h₂, hjoin⟩
    · cases h
    cases back with
    | failure failure => cases hjoin
    | success back =>
      obtain ⟨hstart, htext₁⟩ : front.IsSlice input index := h₁.sliced
      obtain ⟨hmiddle, htext₂⟩ : back.IsSlice input front.stop := h₂.sliced
      obtain ⟨text₁, start, value₁⟩ := front
      obtain ⟨text₂, middle, value₂⟩ := back
      obtain rfl : start = index := hstart
      obtain rfl : middle = start + text₁.size := hmiddle
      -- The text of a sequence is cut from the input anew, and is that of its parts.
      have hslice := Text.slice?_append htext₁ htext₂
      simp only [joinOutcome, joinSequence, hslice] at hjoin
      cases hjoin
      rw [List.append_assoc] at hindex
      exact ⟨text₁, text₂, value₁, value₂, rfl, rfl, ⟨hindex, h₁⟩,
        ⟨Text.dropBytes?_add_size hindex, h₂⟩⟩
  · rintro ⟨text₁, text₂, value₁, value₂, rfl, rfl, h₁, h₂⟩
    have hindex : input.dropBytes? index = some ((text₁ ++ text₂) ++ behind) := by
      rw [List.append_assoc]
      exact h₁.at_index
    refine ⟨hindex, ?_⟩
    have h := Evaluates.sequence h₁.evaluates h₂.evaluates
    have hslice := Text.slice?_of_dropBytes? hindex
    rw [Text.size_append, ← Nat.add_assoc] at hslice
    have hjoin : joinOutcome input index ⟨text₁, index, value₁⟩
        (.success ⟨text₂, index + text₁.size, value₂⟩) =
        .success ⟨text₁ ++ text₂, index, .pair value₁ value₂⟩ := by
      simp only [joinOutcome, joinSequence, Success.stop, Success.size, hslice]
    rwa [hjoin] at h

theorem refuses_sequence_left (h : Refuses rules input index first) :
    Refuses rules input index (.sequence first next) := by
  obtain ⟨failure, h⟩ := h
  exact ⟨failure, .sequenceFails h⟩

theorem refuses_sequence_right (h₁ : Reads rules input index first text behind value)
    (h₂ : Refuses rules input (index + text.size) next) :
    Refuses rules input index (.sequence first next) := by
  obtain ⟨failure, h₂⟩ := h₂
  exact ⟨failure, .sequence h₁.evaluates h₂⟩

/-- The first of the alternatives that does not refuse decides. -/
theorem evaluates_choose_success_iff {all rest : List (Parser ρ α)}
    {termination : Option Failure} :
    Evaluates rules input ⊤ (.choose all termination rest index) (.success success) ↔
      ∃ front parser back, rest = front ++ parser :: back ∧
        (∀ other ∈ front, Refuses rules input index other) ∧
        Evaluates rules input ⊤ (.parse parser index) (.success success) := by
  induction rest generalizing termination with
  | nil =>
    rw [evaluates_choose_nil_iff]
    simp
  | cons first rest ih =>
    rw [evaluates_choose_cons_iff]
    constructor
    · rintro (⟨found, h, hfound⟩ | ⟨failure, hfailure, h⟩)
      · cases hfound
        exact ⟨[], first, rest, rfl, by simp, h⟩
      · obtain ⟨front, parser, back, rfl, hfront, h⟩ := ih.1 h
        exact ⟨first :: front, parser, back, rfl,
          List.forall_mem_cons.2 ⟨⟨failure, hfailure⟩, hfront⟩, h⟩
    · rintro ⟨front, parser, back, hsplit, hfront, h⟩
      cases front with
      | nil =>
        cases hsplit
        exact .inl ⟨success, h, rfl⟩
      | cons other front =>
        cases hsplit
        obtain ⟨⟨failure, hfailure⟩, hfront⟩ := List.forall_mem_cons.1 hfront
        exact .inr ⟨failure, hfailure, ih.2 ⟨front, parser, back, rfl, hfront, h⟩⟩

/-- A choice reads what its first alternative reads that does not refuse. -/
theorem reads_choice_iff {alternatives : List (Parser ρ α)} :
    Reads rules input index (.choice alternatives) text behind value ↔
      ∃ front parser back, alternatives = front ++ parser :: back ∧
        (∀ other ∈ front, Refuses rules input index other) ∧
        Reads rules input index parser text behind value := by
  constructor
  · rintro ⟨hindex, h⟩
    obtain ⟨front, parser, back, hsplit, hfront, h⟩ :=
      evaluates_choose_success_iff.1 (evaluates_choice_iff.1 h)
    exact ⟨front, parser, back, hsplit, hfront, hindex, h⟩
  · rintro ⟨front, parser, back, hsplit, hfront, hindex, h⟩
    exact ⟨hindex, evaluates_choice_iff.2
      (evaluates_choose_success_iff.2 ⟨front, parser, back, hsplit, hfront, h⟩)⟩

theorem not_reads_choice_nil : ¬ Reads rules input index (.choice []) text behind value := by
  rw [reads_choice_iff]
  rintro ⟨front, parser, back, hsplit, _⟩
  simp at hsplit

/-- A choice reads what its first alternative reads, or where that refuses what the others read. -/
theorem reads_choice_cons_iff {alternatives : List (Parser ρ α)} :
    Reads rules input index (.choice (first :: alternatives)) text behind value ↔
      Reads rules input index first text behind value ∨
        Refuses rules input index first ∧
          Reads rules input index (.choice alternatives) text behind value := by
  simp only [reads_choice_iff]
  constructor
  · rintro ⟨front, parser, back, hsplit, hfront, h⟩
    cases front with
    | nil =>
      cases hsplit
      exact .inl h
    | cons other front =>
      cases hsplit
      obtain ⟨hother, hfront⟩ := List.forall_mem_cons.1 hfront
      exact .inr ⟨hother, front, parser, back, rfl, hfront, h⟩
  · rintro (h | ⟨hfirst, front, parser, back, rfl, hfront, h⟩)
    · exact ⟨[], first, alternatives, rfl, by simp, h⟩
    · exact ⟨first :: front, parser, back, rfl, List.forall_mem_cons.2 ⟨hfirst, hfront⟩, h⟩

/-- No alternative is left when all of them fail. -/
theorem exists_choose_failure_iff {all rest : List (Parser ρ α)} {termination : Option Failure} :
    (∃ failure, Evaluates rules input ⊤ (.choose all termination rest index) (.failure failure)) ↔
      ∀ parser ∈ rest, Refuses rules input index parser := by
  -- The failure that is reported depends on those before it, so it is not fixed in advance.
  induction rest generalizing termination with
  | nil =>
    simp only [evaluates_choose_nil_iff, Outcome.failure.injEq, exists_eq, List.not_mem_nil,
      false_implies, implies_true]
  | cons first rest ih =>
    rw [List.forall_mem_cons]
    constructor
    · rintro ⟨failure, h⟩
      rcases evaluates_choose_cons_iff.1 h with ⟨success, _, heq⟩ | ⟨found, hfirst, hrest⟩
      · cases heq
      · exact ⟨⟨found, hfirst⟩, ih.1 ⟨failure, hrest⟩⟩
    · rintro ⟨⟨found, hfirst⟩, hrest⟩
      obtain ⟨last, hlast⟩ := @ih (firstTermination termination found) |>.2 hrest
      exact ⟨last, .passedOver hfirst hlast⟩

theorem refuses_choice_iff {alternatives : List (Parser ρ α)} :
    Refuses rules input index (.choice alternatives) ↔
      ∀ parser ∈ alternatives, Refuses rules input index parser := by
  unfold Refuses
  simp only [evaluates_choice_iff]
  exact exists_choose_failure_iff

theorem reads_mapped_iff {convert : Value α → Value α} :
    Reads rules input index (.mapped body convert) text behind value ↔
      ∃ inner, Reads rules input index body text behind inner ∧ value = convert inner := by
  constructor
  · rintro ⟨hindex, h⟩
    obtain ⟨⟨found, start, inner⟩ | failure, hbody, houtcome⟩ := evaluates_mapped_iff.1 h
    · cases houtcome
      exact ⟨inner, ⟨hindex, hbody⟩, rfl⟩
    · cases houtcome
  · rintro ⟨inner, ⟨hindex, h⟩, rfl⟩
    exact ⟨hindex, .mapped h⟩

theorem refuses_mapped {convert : Value α → Value α} (h : Refuses rules input index body) :
    Refuses rules input index (.mapped body convert) := by
  obtain ⟨failure, h⟩ := h
  exact ⟨failure, .mapped h⟩

theorem reads_converted_iff {convert : Value α → Except String (Value α)} :
    Reads rules input index (.converted body convert) text behind value ↔
      ∃ inner, Reads rules input index body text behind inner ∧ convert inner = .ok value := by
  constructor
  · rintro ⟨hindex, h⟩
    obtain ⟨⟨found, start, inner⟩ | failure, hbody, houtcome⟩ := evaluates_converted_iff.1 h
    · simp only [convertOutcome] at houtcome
      split at houtcome
      · next converted hconvert =>
        cases houtcome
        exact ⟨inner, ⟨hindex, hbody⟩, hconvert⟩
      · cases houtcome
    · cases houtcome
  · rintro ⟨inner, ⟨hindex, h⟩, hconvert⟩
    have hconverted : convertOutcome body convert index (.success ⟨text, index, inner⟩) =
        .success ⟨text, index, value⟩ := by
      simp only [convertOutcome, hconvert]
    exact ⟨hindex, hconverted ▸ .converted h⟩

theorem refuses_converted {convert : Value α → Except String (Value α)}
    (h : Refuses rules input index body) :
    Refuses rules input index (.converted body convert) := by
  obtain ⟨failure, h⟩ := h
  exact ⟨failure, .converted h⟩

/-- What a pattern finds is refused where it cannot be converted. -/
theorem refuses_converted_pattern_iff {pattern : Pattern}
    {convert : Value α → Except String (Value α)} :
    Refuses rules input index (.converted (.pattern pattern) convert) ↔
      ∀ text, pattern.findAt input index = some text →
        ∃ message, convert (.text text) = .error message := by
  unfold Refuses
  simp only [evaluates_converted_iff, evaluates_pattern_iff, matchPattern]
  cases hfound : pattern.findAt input index with
  | none => simp [convertOutcome]
  | some text =>
    cases hconvert : convert (.text text) with
    | ok value => simp [convertOutcome, hconvert]
    | error message => simp [convertOutcome, hconvert]

/-- A pattern that finds the same in two places is refused in both, if it is converted in the same
way. -/
theorem refuses_converted_of_findAt_eq {pattern : Pattern}
    {convert : Value α → Except String (Value α)} {input' : Text} {index' : Nat}
    (hsame : pattern.findAt input index = pattern.findAt input' index')
    (h : Refuses rules input index (.converted (.pattern pattern) convert)) :
    Refuses rules input' index' (.converted (.pattern pattern) convert) := by
  rw [refuses_converted_pattern_iff, hsame] at h
  exact refuses_converted_pattern_iff.2 h

/-- A pattern that finds the same in two places reads the same. -/
theorem reads_converted_of_findAt_eq {pattern : Pattern}
    {convert : Value α → Except String (Value α)} {input' : Text} {index' : Nat}
    (hsame : pattern.findAt input index = pattern.findAt input' index')
    (h : Reads rules input index (.converted (.pattern pattern) convert) text behind value)
    (hindex' : input'.dropBytes? index' = some (text ++ behind')) :
    Reads rules input' index' (.converted (.pattern pattern) convert) text behind' value := by
  obtain ⟨_, hpattern, hconvert⟩ := reads_converted_iff.1 h
  obtain ⟨_, hfound, rfl⟩ := reads_pattern_iff.1 hpattern
  exact reads_converted_iff.2
    ⟨_, reads_pattern_iff.2 ⟨hindex', hsame.symm.trans hfound, rfl⟩, hconvert⟩

theorem reads_deferred_iff {name : ρ} :
    Reads rules input index (.deferred name) text behind value ↔
      ∃ parser, rules name = some parser ∧ Reads rules input index parser text behind value := by
  constructor
  · rintro ⟨hindex, h⟩
    obtain ⟨parser, hrule, h⟩ := evaluates_deferred_iff.1 h
    exact ⟨parser, hrule, hindex, h⟩
  · rintro ⟨parser, hrule, hindex, h⟩
    exact ⟨hindex, evaluates_deferred_iff.2 ⟨parser, hrule, h⟩⟩

/-- A mention of a rule reads what the rule stands for. -/
theorem reads_deferred_iff_of_rule {name : ρ} (hrule : rules name = some parser) :
    Reads rules input index (.deferred name) text behind value ↔
      Reads rules input index parser text behind value := by
  rw [reads_deferred_iff]
  constructor
  · rintro ⟨other, hother, h⟩
    cases hrule.symm.trans hother
    exact h
  · exact fun h => ⟨parser, hrule, h⟩

theorem refuses_deferred {name : ρ} (hrule : rules name = some parser)
    (h : Refuses rules input index parser) : Refuses rules input index (.deferred name) := by
  obtain ⟨failure, h⟩ := h
  exact ⟨failure, evaluates_deferred_iff.2 ⟨parser, hrule, h⟩⟩

/-- An anchored parser reads what its body reads up to the end of the input. -/
theorem reads_anchored_iff : Reads rules input index (.anchored body) text behind value ↔
    Reads rules input index body text behind value ∧ behind = [] := by
  constructor
  · rintro ⟨hindex, h⟩
    obtain ⟨⟨found, start, inner⟩ | failure, hbody, houtcome⟩ := evaluates_anchored_iff.1 h
    · simp only [atEnd] at houtcome
      split at houtcome
      · next hend =>
        cases houtcome
        have hbehind := Text.dropBytes?_add_size hindex
        exact ⟨⟨hindex, hbody⟩, Option.some.inj (hbehind.symm.trans hend)⟩
      · cases houtcome
      · cases houtcome
    · cases houtcome
  · rintro ⟨⟨hindex, h⟩, rfl⟩
    have hend : input.dropBytes? (index + text.size) = some [] := Text.dropBytes?_add_size hindex
    have hanchored : atEnd input (.success ⟨text, index, value⟩) =
        .success ⟨text, index, value⟩ := by
      simp only [atEnd, Success.stop, Success.size, hend]
    exact ⟨hindex, hanchored ▸ .anchored h⟩

end Reads

end Backtrack
