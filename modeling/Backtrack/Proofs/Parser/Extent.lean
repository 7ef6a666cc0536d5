import Backtrack.Proofs.Parser.Evaluation
import Backtrack.Proofs.Text.Cut

/-! # The extent of a match

    A success is a slice of the input: it starts at the index that was asked
    for, it ends on a character boundary of the input, and its text is what
    stands between. Every combinator makes its text anew from the offsets
    its parts report, so each of them has a lemma of its own in §2.

    * `Evaluates.sliced`: the outcome of every task is a slice. -/

namespace Backtrack

variable {ρ α β : Type}

/-! ## §1. Slices and patterns -/

/-- The success is the part of the input between its index and the place where it stops. -/
def Success.IsSlice (input : Text) (index : Nat) (success : Success β) : Prop :=
  success.index = index ∧ input.slice? index success.stop = some success.text

/-- A success at the index is a slice; a failure says nothing about the input. -/
def Outcome.Sliced (input : Text) (index : Nat) : Outcome β → Prop
  | .success s => s.IsSlice input index
  | .failure _ => True

/-- A slice does not stop before it starts. -/
theorem Success.IsSlice.le_stop {input : Text} {index : Nat} {success : Success β}
    (h : success.IsSlice input index) : index ≤ success.stop := by
  have hindex := h.1
  unfold Success.stop
  omega

theorem Success.isSlice_of_slice? {input text : Text} {index stop : Nat}
    (h : input.slice? index stop = some text) (value : β) :
    Success.IsSlice input index ⟨text, index, value⟩ := by
  have hstop : index + Text.size text = stop := Text.add_size_of_slice? h
  refine ⟨rfl, ?_⟩
  show input.slice? index (index + Text.size text) = some text
  rw [hstop, h]

/-- A text behind an offset with which the rest begins is a slice there. -/
theorem Success.isSlice_of_dropBytes? {input text rest : Text} {index : Nat}
    (h : input.dropBytes? index = some (text ++ rest)) (value : β) :
    Success.IsSlice input index ⟨text, index, value⟩ := by
  obtain ⟨front, hinput, hfront⟩ := Text.dropBytes?_eq_some_iff.1 h
  have hslice : input.slice? index (index + Text.size text) = some text :=
    Text.slice?_eq_some_iff.2 ⟨front, rest, by simp [hinput], hfront, rfl⟩
  exact Success.isSlice_of_slice? hslice value

theorem Success.isSlice_empty {input : Text} {index : Nat} (h : input.isBoundary index = true)
    (value : β) : (Success.empty index value).IsSlice input index :=
  Success.isSlice_of_slice? (Text.slice?_self h) value

/-- Characters that start at a place without any bytes in front of it start at its beginning. -/
theorem Regex.between_of_size_eq_zero {rest : Text} {start stop : Nat}
    (h : Text.size (rest.take start) = 0) : ∃ n, Regex.between rest start stop = rest.take n := by
  rcases List.take_eq_nil_iff.1 (Text.size_eq_zero_iff.1 h) with rfl | rfl
  · exact ⟨stop, by simp [Regex.between]⟩
  · exact ⟨0, by simp [Regex.between]⟩

/-- What a pattern matches at an offset is what the input goes on with there. -/
theorem Pattern.dropBytes?_of_findAt {pattern : Pattern} {input text : Text} {index : Nat}
    (h : pattern.findAt input index = some text) :
    ∃ rest, input.dropBytes? index = some (text ++ rest) := by
  unfold Pattern.findAt at h
  cases hdrop : input.dropBytes? index with
  | none =>
    split at h
    · simp [hdrop] at h
    · simp [Regex.findFrom, hdrop] at h
  | some rest =>
    -- A pattern that is searched for counts where the search stops at its own start.
    have htake : ∃ n, text = rest.take n := by
      split at h
      · simp only [hdrop] at h
        obtain ⟨n, _, rfl⟩ := Option.map_eq_some_iff.1 h
        exact ⟨n, rfl⟩
      · split at h
        · next start found hfind =>
          split at h
          · next hstart =>
            simp only [Regex.findFrom, hdrop] at hfind
            obtain ⟨⟨first, stop⟩, _, hpair⟩ := Option.map_eq_some_iff.1 hfind
            simp only [Prod.mk.injEq] at hpair
            obtain ⟨hindex, hfound⟩ := hpair
            have hsize : Text.size (rest.take first) = 0 := by omega
            obtain ⟨n, hn⟩ : ∃ n, Regex.between rest first stop = rest.take n :=
              Regex.between_of_size_eq_zero hsize
            exact ⟨n, by rw [← Option.some.inj h, ← hfound, hn]⟩
          · simp at h
        · simp at h
    obtain ⟨n, rfl⟩ := htake
    exact ⟨rest.drop n, by rw [List.take_append_drop]⟩

/-! ## §2. The combinators -/

section Combinators

variable {input : Text} {index : Nat}

theorem matchLiteral_sliced (text : Text) :
    (matchLiteral input text index : Outcome (Value α)).Sliced input index := by
  unfold matchLiteral
  split
  · next rest hrest =>
    obtain ⟨behind, hbehind, hafter⟩ := Option.bind_eq_some_iff.1 hrest
    rw [Text.after?_eq_some_iff.1 hafter] at hbehind
    exact Success.isSlice_of_dropBytes? hbehind _
  · trivial

theorem matchPattern_sliced (pattern : Pattern) :
    (matchPattern input pattern index : Outcome (Value α)).Sliced input index := by
  unfold matchPattern
  split
  · next text htext =>
    obtain ⟨rest, hrest⟩ := Pattern.dropBytes?_of_findAt htext
    exact Success.isSlice_of_dropBytes? hrest _
  · trivial

theorem joinOutcome_sliced (front : Success (Value α)) (outcome : Outcome (Value α)) :
    (joinOutcome input index front outcome).Sliced input index := by
  cases outcome with
  | failure failure => trivial
  | success back =>
    show Outcome.Sliced input index (joinSequence input index front back)
    unfold joinSequence
    split
    · next text htext => exact Success.isSlice_of_slice? htext _
    · trivial

theorem endLoop_sliced (body : Parser ρ α) (bounds : Bounds) (position : Nat)
    (values : List (Value α)) :
    (endLoop input body bounds index position values).Sliced input index := by
  unfold endLoop finishRounds
  split
  · split
    · next text htext => exact Success.isSlice_of_slice? htext _
    · trivial
  · trivial

theorem orNothing_sliced {outcome : Outcome (Value α)} (h : outcome.Sliced input index) :
    (orNothing input index outcome).Sliced input index := by
  cases outcome with
  | success success => exact h
  | failure failure =>
    simp only [orNothing]
    split
    · next hboundary => exact Success.isSlice_empty hboundary _
    · trivial

theorem inverted_sliced (body : Parser ρ α) (outcome : Outcome (Value α)) :
    (inverted input body index outcome).Sliced input index := by
  cases outcome with
  | success success => trivial
  | failure failure =>
    simp only [inverted]
    split
    · next hboundary => exact Success.isSlice_empty hboundary _
    · trivial

theorem atEnd_sliced {outcome : Outcome (Value α)} (h : outcome.Sliced input index) :
    (atEnd input outcome).Sliced input index := by
  cases outcome with
  | failure failure => trivial
  | success success =>
    simp only [atEnd]
    split
    · exact h
    · trivial
    · trivial

theorem mapOutcome_sliced (convert : Value α → Value α) {outcome : Outcome (Value α)}
    (h : outcome.Sliced input index) : (mapOutcome convert outcome).Sliced input index := by
  cases outcome with
  | success success => exact h
  | failure failure => trivial

theorem convertOutcome_sliced (body : Parser ρ α) (convert : Value α → Except String (Value α))
    {outcome : Outcome (Value α)} (h : outcome.Sliced input index) :
    (convertOutcome body convert index outcome).Sliced input index := by
  cases outcome with
  | failure failure => trivial
  | success success =>
    simp only [convertOutcome]
    split
    · exact h
    · trivial

end Combinators

/-! ## §3. Evaluation -/

/-- **Every success is a slice** of the input from the index of its task on. -/
theorem Evaluates.sliced {rules : ρ → Option (Parser ρ α)} {input : Text} {depth : ℕ∞}
    {task : Task ρ α} {outcome : Outcome (Value α)}
    (h : Evaluates rules input depth task outcome) : outcome.Sliced input task.start := by
  -- Every outcome is cut from the input anew, by one of the functions of the section above.
  induction h with
  | literal text index => exact matchLiteral_sliced text
  | pattern expression index => exact matchPattern_sliced expression
  | sequenceFails _ _ => trivial
  | sequence _ _ _ _ => exact joinOutcome_sliced _ _
  | choice _ ih => exact ih
  | exhausted all termination index => trivial
  | chosen _ ih => exact ih
  | passedOver _ _ _ ih => exact ih
  | repetition _ ih => exact ih
  | separated _ ih => exact ih
  | full _ => exact endLoop_sliced _ _ _ _
  | unseparated _ _ _ ih => exact ih
  | separatorFails _ _ _ _ => exact endLoop_sliced _ _ _ _
  | separatorMatches _ _ _ _ _ ih => exact ih
  | roundFails _ _ => exact endLoop_sliced _ _ _ _
  | roundStays _ _ _ => exact endLoop_sliced _ _ _ _
  | roundMoves _ _ _ _ ih => exact ih
  | option _ ih => exact orNothing_sliced ih
  | negation _ _ => exact inverted_sliced _ _
  | anchored _ ih => exact atEnd_sliced ih
  | mapped _ ih => exact mapOutcome_sliced _ ih
  | converted _ ih => exact convertOutcome_sliced _ _ ih
  | deferred _ _ _ ih => exact ih

section Success

variable {rules : ρ → Option (Parser ρ α)} {input : Text} {depth : ℕ∞} {task : Task ρ α}
  {success : Success (Value α)}

/-- A match of a parser is a slice from the index on at which the parser ran. -/
theorem Evaluates.isSlice {parser : Parser ρ α} {index : Nat}
    (h : Evaluates rules input depth (.parse parser index) (.success success)) :
    success.IsSlice input index :=
  h.sliced

/-- Two matches, one right behind the other, are one slice of the input. -/
theorem Evaluates.slice?_of_sequence {first next : Parser ρ α} {index : Nat}
    {front back : Success (Value α)}
    (hfront : Evaluates rules input depth (.parse first index) (.success front))
    (hback : Evaluates rules input depth (.parse next front.stop) (.success back)) :
    input.slice? index back.stop = some (front.text ++ back.text) :=
  Text.slice?_append hfront.isSlice.2 hback.isSlice.2

/-- A match starts at a character boundary. -/
theorem Evaluates.isBoundary_start (h : Evaluates rules input depth task (.success success)) :
    input.isBoundary task.start = true := by
  have hslice : success.IsSlice input task.start := h.sliced
  exact Text.isBoundary_start_of_slice? hslice.2

/-- A match stops at a character boundary. -/
theorem Evaluates.isBoundary_stop (h : Evaluates rules input depth task (.success success)) :
    input.isBoundary success.stop = true := by
  have hslice : success.IsSlice input task.start := h.sliced
  exact Text.isBoundary_stop_of_slice? hslice.2

/-- A match does not stop before it starts. -/
theorem Evaluates.start_le_stop (h : Evaluates rules input depth task (.success success)) :
    task.start ≤ success.stop := by
  have hslice : success.IsSlice input task.start := h.sliced
  exact hslice.le_stop

/-- A match stops within the input. -/
theorem Evaluates.stop_le_size (h : Evaluates rules input depth task (.success success)) :
    success.stop ≤ Text.size input := by
  have hslice : success.IsSlice input task.start := h.sliced
  exact Text.le_size_of_slice? hslice.2

/-- A match that comes no further than its start is empty. -/
theorem Evaluates.text_eq_nil (h : Evaluates rules input depth task (.success success))
    (hstop : success.stop = task.start) : success.text = [] := by
  have hslice : success.IsSlice input task.start := h.sliced
  have hindex := hslice.1
  have hsize : Text.size success.text = 0 := by
    unfold Success.stop Success.size at hstop
    omega
  exact Text.size_eq_zero_iff.1 hsize

end Success

end Backtrack
