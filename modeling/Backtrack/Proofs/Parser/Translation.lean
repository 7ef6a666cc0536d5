import Backtrack.Proofs.Parser.Extent
import Backtrack.Proofs.Parser.Nodes

/-! # Translation

    A parser reads the input from a place on. What stands in front of it is
    never looked at, unless by a pattern that does. So the same parser comes
    to the same at two places, of one text or of two, from which on the texts
    agree.

    Which places of two texts correspond is told by two numbers: the place
    `p` of the first to the place `q` of the second if `p + m = q + n`. This
    can be turned around, so that one induction serves both directions.

    * `Text.aligned_append`: a text behind something else.
    * `Evaluates.moved`: what is derived on a text is derived on the other. -/

namespace Backtrack

variable {ρ σ α β : Type}

/-! ## §1. Texts and patterns -/

/-- What stands behind a place of a text stands behind the corresponding place of the other, and
where the one has no place the other has none. -/
def Text.Aligned (text text' : Text) (m n : Nat) : Prop :=
  ∀ place place', place + m = place' + n → text.dropBytes? place = text'.dropBytes? place'

/-- What a pattern matches does not depend on what stands in front of it. -/
def Pattern.Forward (pattern : Pattern) : Prop :=
  ∀ (input input' : Text) (index index' : Nat) (rest : Text),
    input.dropBytes? index = some rest → input'.dropBytes? index' = some rest →
      pattern.findAt input index = pattern.findAt input' index'

/-- A text corresponds to itself. -/
theorem Text.aligned_refl (text : Text) : text.Aligned text 0 0 := by
  intro place place' hplace
  obtain rfl : place = place' := hplace
  rfl

/-- A text corresponds to itself behind something else. -/
theorem Text.aligned_append (front text : Text) : text.Aligned (front ++ text) front.size 0 := by
  intro place place' hplace
  have hbehind : place' = front.size + place := by omega
  rw [hbehind, Text.dropBytes?_append]

section Alignment

variable {input input' : Text} {m n index index' stop stop' : Nat}

theorem Text.Aligned.symm (h : input.Aligned input' m n) : input'.Aligned input n m :=
  fun place place' hplace => (h place' place hplace.symm).symm

variable (h : input.Aligned input' m n) (hindex : index + m = index' + n)
include h hindex

theorem Text.Aligned.isBoundary_eq : input.isBoundary index = input'.isBoundary index' := by
  unfold Text.isBoundary
  rw [h index index' hindex]

theorem Text.Aligned.slice?_eq (hstop : stop + m = stop' + n) :
    input.slice? index stop = input'.slice? index' stop' := by
  unfold Text.slice?
  have hlength : stop - index = stop' - index' := by omega
  by_cases hle : index ≤ stop
  · have hle' : index' ≤ stop' := by omega
    rw [if_pos hle, if_pos hle', h index index' hindex, hlength]
  · have hle' : ¬ index' ≤ stop' := by omega
    rw [if_neg hle, if_neg hle']

/-- A pattern that looks forward only matches the same, or nothing in both places. -/
theorem Pattern.Forward.findAt_eq {pattern : Pattern} (hforward : pattern.Forward) :
    pattern.findAt input index = pattern.findAt input' index' := by
  have hrest := h index index' hindex
  cases hdrop : input.dropBytes? index with
  | some rest =>
    rw [hdrop] at hrest
    exact hforward input input' index index' rest hdrop hrest.symm
  | none =>
    -- Nothing is matched where there is no place.
    rw [hdrop] at hrest
    have hnone {text : Text} {place : Nat} (hnowhere : text.dropBytes? place = none) :
        pattern.findAt text place = none := by
      cases hfound : pattern.findAt text place with
      | none => rfl
      | some found =>
        obtain ⟨rest, hdrop⟩ := Pattern.dropBytes?_of_findAt hfound
        rw [hnowhere] at hdrop
        cases hdrop
    rw [hnone hdrop, hnone hrest.symm]

end Alignment

/-! ## §2. Outcomes -/

/-- The same match at the corresponding place. -/
structure Success.Moved (m n : Nat) (success success' : Success β) : Prop where
  text : success'.text = success.text
  value : success'.value = success.value
  index : success.index + m = success'.index + n

/-- A failure of the same kind at the corresponding place. -/
structure Failure.Moved (m n : Nat) (failure failure' : Failure) : Prop where
  kind : failure'.kind = failure.kind
  index : failure.index + m = failure'.index + n

/-- The same match, or failures of the same kind, at corresponding places. -/
inductive Outcome.Moved (m n : Nat) : Outcome β → Outcome β → Prop where
  | success {success success' : Success β} :
      success.Moved m n success' → Outcome.Moved m n (.success success) (.success success')
  | failure {failure failure' : Failure} :
      failure.Moved m n failure' → Outcome.Moved m n (.failure failure) (.failure failure')

/-- The second outcome is the first so many bytes further on. -/
def Outcome.Behind (size : Nat) : Outcome β → Outcome β → Prop
  | .success s, .success s' =>
    s'.text = s.text ∧ s'.value = s.value ∧ s'.index = size + s.index ∧ s'.stop = size + s.stop
  | .failure f, .failure f' => f'.kind = f.kind ∧ f'.index = size + f.index
  | _, _ => False

section Outcomes

variable {input input' : Text} {m n index index' position position' : Nat}
  {outcome outcome' : Outcome (Value α)} {front front' : Success (Value α)}
  {termination termination' : Option Failure} {failure failure' : Failure}

theorem Success.Moved.stop {success success' : Success β} (h : success.Moved m n success') :
    success.stop + m = success'.stop + n := by
  have hindex := h.index
  unfold Success.stop Success.size
  rw [h.text]
  omega

theorem Outcome.Moved.behind {outcome outcome' : Outcome β} {size : Nat}
    (h : outcome.Moved size 0 outcome') : outcome.Behind size outcome' := by
  cases h with
  | @success s s' h =>
    have hindex : s'.index = size + s.index := by
      have hsum := h.index
      omega
    have hstop : s'.stop = size + s.stop := by
      have hsum := h.stop
      omega
    exact ⟨h.text, h.value, hindex, hstop⟩
  | @failure f f' h =>
    have hindex : f'.index = size + f.index := by
      have hsum := h.index
      omega
    exact ⟨h.kind, hindex⟩

theorem Outcome.Moved.symm {outcome outcome' : Outcome β} (h : outcome.Moved m n outcome') :
    outcome'.Moved n m outcome := by
  cases h with
  | success h => exact .success ⟨h.text.symm, h.value.symm, h.index.symm⟩
  | failure h => exact .failure ⟨h.kind.symm, h.index.symm⟩

theorem mapOutcome_moved (h : outcome.Moved m n outcome') (convert : Value α → Value α) :
    (mapOutcome convert outcome).Moved m n (mapOutcome convert outcome') := by
  cases h with
  | success h => exact .success ⟨h.text, congrArg convert h.value, h.index⟩
  | failure h => exact .failure h

theorem firstTermination_moved
    (htermination : Option.Rel (Failure.Moved m n) termination termination')
    (h : failure.Moved m n failure') :
    Option.Rel (Failure.Moved m n) (firstTermination termination failure)
      (firstTermination termination' failure') := by
  cases htermination with
  | some hfirst => exact .some hfirst
  | none =>
    unfold firstTermination
    rw [h.kind]
    by_cases hkind : failure.kind = .termination
    · simp only [hkind, Option.isNone_none, Bool.true_and, decide_true, if_true]
      exact .some h
    · simp only [hkind, Option.isNone_none, Bool.true_and, decide_false, Bool.false_eq_true,
        if_false]
      exact .none

theorem noneMatched_moved (all : List (Parser ρ α)) (all' : List (Parser σ α))
    (htermination : Option.Rel (Failure.Moved m n) termination termination')
    (hindex : index + m = index' + n) :
    (noneMatched all index termination).Moved m n (noneMatched all' index' termination') := by
  cases htermination with
  | some hfirst => exact hfirst
  | none => exact ⟨rfl, hindex⟩

theorem convertOutcome_moved (h : outcome.Moved m n outcome') (body : Parser ρ α)
    (body' : Parser σ α) (convert : Value α → Except String (Value α))
    (hindex : index + m = index' + n) :
    (convertOutcome body convert index outcome).Moved m n
      (convertOutcome body' convert index' outcome') := by
  cases h with
  | failure h => exact .failure h
  | success h =>
    simp only [convertOutcome, h.value]
    split
    · exact .success ⟨h.text, rfl, h.index⟩
    · exact .failure ⟨rfl, hindex⟩

section Texts

variable (h : input.Aligned input' m n)
include h

theorem atEnd_moved (houtcome : outcome.Moved m n outcome') :
    (atEnd input outcome).Moved m n (atEnd input' outcome') := by
  cases houtcome with
  | failure hfailure => exact .failure hfailure
  | success hsuccess =>
    simp only [atEnd, h _ _ hsuccess.stop]
    split
    · exact .success hsuccess
    · exact .failure ⟨rfl, hsuccess.stop⟩
    · exact .failure ⟨rfl, hsuccess.stop⟩

variable (hindex : index + m = index' + n)
include hindex

theorem matchLiteral_moved (text : Text) :
    (matchLiteral input text index : Outcome (Value α)).Moved m n
      (matchLiteral input' text index') := by
  unfold matchLiteral
  rw [h index index' hindex]
  split
  · exact .success ⟨rfl, rfl, hindex⟩
  · exact .failure ⟨rfl, hindex⟩

theorem matchPattern_moved {pattern : Pattern} (hforward : pattern.Forward) :
    (matchPattern input pattern index : Outcome (Value α)).Moved m n
      (matchPattern input' pattern index') := by
  unfold matchPattern
  rw [hforward.findAt_eq h hindex]
  split
  · exact .success ⟨rfl, rfl, hindex⟩
  · exact .failure ⟨rfl, hindex⟩

theorem joinOutcome_moved (hfront : front.Moved m n front')
    (houtcome : outcome.Moved m n outcome') :
    (joinOutcome input index front outcome).Moved m n
      (joinOutcome input' index' front' outcome') := by
  cases houtcome with
  | failure hfailure => exact .failure hfailure
  | success hback =>
    simp only [joinOutcome, joinSequence, h.slice?_eq hindex hback.stop, hfront.value, hback.value]
    split
    · exact .success ⟨rfl, rfl, hindex⟩
    · exact .failure ⟨rfl, hindex⟩

theorem endLoop_moved (body : Parser ρ α) (body' : Parser σ α) (bounds : Bounds)
    (values : List (Value α)) (hposition : position + m = position' + n) :
    (endLoop input body bounds index position values).Moved m n
      (endLoop input' body' bounds index' position' values) := by
  simp only [endLoop, finishRounds, h.slice?_eq hindex hposition]
  split
  · split
    · exact .success ⟨rfl, rfl, hindex⟩
    · exact .failure ⟨rfl, hindex⟩
  · exact .failure ⟨rfl, hindex⟩

theorem orNothing_moved (houtcome : outcome.Moved m n outcome') :
    (orNothing input index outcome).Moved m n (orNothing input' index' outcome') := by
  cases houtcome with
  | success hsuccess =>
    exact .success ⟨hsuccess.text, congrArg Value.some hsuccess.value, hsuccess.index⟩
  | failure _ =>
    simp only [orNothing, h.isBoundary_eq hindex]
    split
    · exact .success ⟨rfl, rfl, hindex⟩
    · exact .failure ⟨rfl, hindex⟩

theorem inverted_moved (body : Parser ρ α) (body' : Parser σ α)
    (houtcome : outcome.Moved m n outcome') :
    (inverted input body index outcome).Moved m n (inverted input' body' index' outcome') := by
  cases houtcome with
  | success _ => exact .failure ⟨rfl, hindex⟩
  | failure _ =>
    simp only [inverted, h.isBoundary_eq hindex]
    split
    · exact .success ⟨rfl, rfl, hindex⟩
    · exact .failure ⟨rfl, hindex⟩

end Texts

end Outcomes

/-! ## §3. Tasks -/

/-- The same task at corresponding places. -/
inductive Task.Moved (m n : Nat) : Task ρ α → Task ρ α → Prop where
  | parse {parser : Parser ρ α} {index index' : Nat} :
      index + m = index' + n → Task.Moved m n (.parse parser index) (.parse parser index')
  | choose {all rest : List (Parser ρ α)} {termination termination' : Option Failure}
      {index index' : Nat} :
      Option.Rel (Failure.Moved m n) termination termination' → index + m = index' + n →
      Task.Moved m n (.choose all termination rest index) (.choose all termination' rest index')
  | loop {body : Parser ρ α} {separator : Option (Parser ρ α)} {bounds : Bounds}
      {start start' position position' : Nat} {values : List (Value α)} :
      start + m = start' + n → position + m = position' + n →
      Task.Moved m n (.loop body separator bounds start position values)
        (.loop body separator bounds start' position' values)
  | round {body : Parser ρ α} {separator : Option (Parser ρ α)} {bounds : Bounds}
      {start start' position position' behind behind' : Nat} {values : List (Value α)} :
      start + m = start' + n → position + m = position' + n → behind + m = behind' + n →
      Task.Moved m n (.round body separator bounds start position behind values)
        (.round body separator bounds start' position' behind' values)

/-- The patterns that the task can use look forward only. -/
def Task.Forward (rules : ρ → Option (Parser ρ α)) (task : Task ρ α) : Prop :=
  ∀ expression, task.Uses rules (.pattern expression) → expression.Forward

section Tasks

variable {rules : ρ → Option (Parser ρ α)} {input input' : Text} {depth : ℕ∞} {m n : Nat}
  {task task' : Task ρ α} {outcome : Outcome (Value α)}

theorem Task.Forward.of_asks (input : Text) (h : task.Forward rules)
    (hasks : Task.Asks rules input task task') : task'.Forward rules :=
  fun expression huses => h expression (huses.of_asks hasks)

/-- **Translation.** What is derived for a task on one text is derived for it on the other, at the
corresponding places. -/
theorem Evaluates.moved (h : Evaluates rules input depth task outcome)
    (haligned : input.Aligned input' m n) (hforward : task.Forward rules)
    (htask : task.Moved m n task') :
    ∃ outcome', Evaluates rules input' depth task' outcome' ∧ outcome.Moved m n outcome' := by
  -- Where a task goes on depends on whether a part succeeds and on where it stops. Both runs agree
  -- on the first, and where they stop corresponds, so they go on with corresponding tasks.
  induction h generalizing task' with
  | literal text index =>
    cases htask with
    | parse hindex => exact ⟨_, .literal text _, matchLiteral_moved haligned hindex text⟩
  | pattern expression index =>
    cases htask with
    | parse hindex =>
      exact ⟨_, .pattern expression _,
        matchPattern_moved haligned hindex (hforward expression .refl)⟩
  | sequenceFails _ ih =>
    cases htask with
    | parse hindex =>
      obtain ⟨_, hfirst, hmoved⟩ := ih (hforward.of_asks input .first) (.parse hindex)
      cases hmoved with
      | failure hfailure => exact ⟨_, .sequenceFails hfirst, .failure hfailure⟩
  | sequence hfront _ ih₁ ih₂ =>
    cases htask with
    | parse hindex =>
      obtain ⟨_, hfirst, hmoved⟩ := ih₁ (hforward.of_asks input .first) (.parse hindex)
      cases hmoved with
      | success hsuccess =>
        obtain ⟨_, hnext, hback⟩ :=
          ih₂ (hforward.of_asks input (.next (hfront.mono le_top))) (.parse hsuccess.stop)
        exact ⟨_, .sequence hfirst hnext, joinOutcome_moved haligned hindex hsuccess hback⟩
  | choice _ ih =>
    cases htask with
    | parse hindex =>
      obtain ⟨_, hchoose, hmoved⟩ := ih (hforward.of_asks input .choice) (.choose .none hindex)
      exact ⟨_, .choice hchoose, hmoved⟩
  | exhausted all termination index =>
    cases htask with
    | choose htermination hindex =>
      exact ⟨_, .exhausted all _ _, .failure (noneMatched_moved all all htermination hindex)⟩
  | chosen _ ih =>
    cases htask with
    | choose htermination hindex =>
      obtain ⟨_, hparser, hmoved⟩ := ih (hforward.of_asks input .alternative) (.parse hindex)
      cases hmoved with
      | success hsuccess => exact ⟨_, .chosen hparser, .success hsuccess⟩
  | passedOver hfails _ ih₁ ih₂ =>
    cases htask with
    | choose htermination hindex =>
      obtain ⟨_, hparser, hmoved⟩ := ih₁ (hforward.of_asks input .alternative) (.parse hindex)
      cases hmoved with
      | failure hfailure =>
        -- The failures promoted so far correspond, and so do those promoted behind this one.
        obtain ⟨_, hothers, hlast⟩ := ih₂ (hforward.of_asks input (.others (hfails.mono le_top)))
          (.choose (firstTermination_moved htermination hfailure) hindex)
        exact ⟨_, .passedOver hparser hothers, hlast⟩
  | repetition _ ih =>
    cases htask with
    | parse hindex =>
      obtain ⟨_, hloop, hmoved⟩ := ih (hforward.of_asks input .repetition) (.loop hindex hindex)
      exact ⟨_, .repetition hloop, hmoved⟩
  | separated _ ih =>
    cases htask with
    | parse hindex =>
      obtain ⟨_, hloop, hmoved⟩ := ih (hforward.of_asks input .separated) (.loop hindex hindex)
      exact ⟨_, .separated hloop, hmoved⟩
  | full hadmits =>
    cases htask with
    | loop hstart hposition =>
      exact ⟨_, .full hadmits, endLoop_moved haligned hstart _ _ _ _ hposition⟩
  | unseparated hadmits hsep _ ih =>
    cases htask with
    | loop hstart hposition =>
      obtain ⟨_, hround, hmoved⟩ := ih (hforward.of_asks input (.unseparated hadmits hsep))
        (.round hstart hposition hposition)
      exact ⟨_, .unseparated hadmits hsep hround, hmoved⟩
  | separatorFails hadmits hne _ ih =>
    cases htask with
    | loop hstart hposition =>
      obtain ⟨_, hseparator, hmoved⟩ :=
        ih (hforward.of_asks input (.separator hadmits hne)) (.parse hposition)
      cases hmoved with
      | failure _ =>
        exact ⟨_, .separatorFails hadmits hne hseparator,
          endLoop_moved haligned hstart _ _ _ _ hposition⟩
  | separatorMatches hadmits hne hmatches _ ih₁ ih₂ =>
    cases htask with
    | loop hstart hposition =>
      obtain ⟨_, hseparator, hmoved⟩ :=
        ih₁ (hforward.of_asks input (.separator hadmits hne)) (.parse hposition)
      cases hmoved with
      | success hsuccess =>
        obtain ⟨_, hround, hlast⟩ :=
          ih₂ (hforward.of_asks input (.behind hadmits hne (hmatches.mono le_top)))
            (.round hstart hposition hsuccess.stop)
        exact ⟨_, .separatorMatches hadmits hne hseparator hround, hlast⟩
  | roundFails _ ih =>
    cases htask with
    | round hstart hposition hbehind =>
      obtain ⟨_, hbody, hmoved⟩ := ih (hforward.of_asks input .body) (.parse hbehind)
      cases hmoved with
      | failure _ => exact ⟨_, .roundFails hbody, endLoop_moved haligned hstart _ _ _ _ hbehind⟩
  | roundStays _ hstop ih =>
    cases htask with
    | round hstart hposition hbehind =>
      obtain ⟨_, hbody, hmoved⟩ := ih (hforward.of_asks input .body) (.parse hbehind)
      cases hmoved with
      | success hsuccess =>
        have hstop' := hsuccess.stop
        rw [← hsuccess.value]
        exact ⟨_, .roundStays hbody (by omega), endLoop_moved haligned hstart _ _ _ _ hposition⟩
  | roundMoves hmatches hstop _ ih₁ ih₂ =>
    cases htask with
    | round hstart hposition hbehind =>
      obtain ⟨_, hbody, hmoved⟩ := ih₁ (hforward.of_asks input .body) (.parse hbehind)
      cases hmoved with
      | success hsuccess =>
        have hstop' := hsuccess.stop
        obtain ⟨_, hloop, hlast⟩ :=
          ih₂ (hforward.of_asks input (.again (hmatches.mono le_top) hstop))
            (.loop hstart hsuccess.stop)
        rw [← hsuccess.value] at hloop
        exact ⟨_, .roundMoves hbody (by omega) hloop, hlast⟩
  | option _ ih =>
    cases htask with
    | parse hindex =>
      obtain ⟨_, hbody, hmoved⟩ := ih (hforward.of_asks input .option) (.parse hindex)
      exact ⟨_, .option hbody, orNothing_moved haligned hindex hmoved⟩
  | negation _ ih =>
    cases htask with
    | parse hindex =>
      obtain ⟨_, hbody, hmoved⟩ := ih (hforward.of_asks input .negation) (.parse hindex)
      exact ⟨_, .negation hbody, inverted_moved haligned hindex _ _ hmoved⟩
  | anchored _ ih =>
    cases htask with
    | parse hindex =>
      obtain ⟨_, hbody, hmoved⟩ := ih (hforward.of_asks input .anchored) (.parse hindex)
      exact ⟨_, .anchored hbody, atEnd_moved haligned hmoved⟩
  | mapped _ ih =>
    cases htask with
    | parse hindex =>
      obtain ⟨_, hbody, hmoved⟩ := ih (hforward.of_asks input .mapped) (.parse hindex)
      exact ⟨_, .mapped hbody, mapOutcome_moved hmoved _⟩
  | converted _ ih =>
    cases htask with
    | parse hindex =>
      obtain ⟨_, hbody, hmoved⟩ := ih (hforward.of_asks input .converted) (.parse hindex)
      exact ⟨_, .converted hbody, convertOutcome_moved hmoved _ _ _ hindex⟩
  | deferred hrule hdepth _ ih =>
    cases htask with
    | parse hindex =>
      obtain ⟨_, hparser, hmoved⟩ :=
        ih (hforward.of_asks input (.deferred hrule)) (.parse hindex)
      exact ⟨_, .deferred hrule hdepth hparser, hmoved⟩

/-- Behind something else a parser comes to the same, so many bytes further on. -/
theorem Evaluates.exists_behind {parser : Parser ρ α} {index : Nat}
    (h : Evaluates rules input depth (.parse parser index) outcome)
    (hforward : ∀ expression, parser.Holds rules (.pattern expression) → expression.Forward)
    (front : Text) :
    ∃ outcome', Evaluates rules (front ++ input) depth (.parse parser (front.size + index))
        outcome' ∧ outcome.Behind front.size outcome' := by
  have htask : (Task.parse parser index).Moved front.size 0
      (.parse parser (front.size + index)) := .parse (by omega)
  obtain ⟨outcome', hbehind, hmoved⟩ := h.moved (Text.aligned_append front input) hforward htask
  exact ⟨outcome', hbehind, hmoved.behind⟩

/-- What a parser comes to behind something else, it comes to without that. -/
theorem Evaluates.exists_in_front {parser : Parser ρ α} {index : Nat} {front : Text}
    (h : Evaluates rules (front ++ input) depth (.parse parser (front.size + index)) outcome)
    (hforward : ∀ expression, parser.Holds rules (.pattern expression) → expression.Forward) :
    ∃ outcome', Evaluates rules input depth (.parse parser index) outcome' ∧
      outcome'.Behind front.size outcome := by
  have htask : (Task.parse parser (front.size + index)).Moved 0 front.size
      (.parse parser index) := .parse (by omega)
  obtain ⟨outcome', hinput, hmoved⟩ :=
    h.moved (Text.aligned_append front input).symm hforward htask
  exact ⟨outcome', hinput, hmoved.symm.behind⟩

end Tasks

end Backtrack
