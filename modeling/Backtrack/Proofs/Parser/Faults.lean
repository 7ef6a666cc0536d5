import Backtrack.Proofs.Parser.Nodes
import Backtrack.Proofs.Parser.Places

/-! # What failures say

    A failure is handed on from the parser that made it to those that run it,
    or is replaced on the way: by a repetition, by a choice, by an option
    that succeeds instead. What holds of a failure wherever it was made, and
    of each one that replaces another, therefore holds of the one a run ends
    with.

    * `Evaluates.points`: where a failure points.
    * `Evaluates.exists_maker`: what sort of node made it. -/

namespace Backtrack

variable {ρ α β : Type}

/-! ## §1. Messages -/

/-- The first letter of the message. -/
def Failure.opening (failure : Failure) : Option Char :=
  failure.message.toList.head?

theorem head?_toList_append {first : String} {c : Char} (h : first.toList.head? = some c)
    (rest : String) : (first ++ rest).toList.head? = some c := by
  rw [String.toList_append, List.head?_append, h]
  rfl

section Messages

variable (text : Text) (parser error : String) (alternatives : List String)
  (min actual index : Nat) (found : Char)

theorem Failure.opening_expectedText : (expectedText text index).opening = some 'E' :=
  head?_toList_append (head?_toList_append (head?_toList_append rfl _) _) _

theorem Failure.opening_expectedPattern : (expectedPattern parser index).opening = some 'E' :=
  head?_toList_append (head?_toList_append (head?_toList_append rfl _) _) _

theorem Failure.opening_noAlternative :
    (noAlternative alternatives index).opening = some 'E' :=
  head?_toList_append (head?_toList_append (head?_toList_append rfl _) _) _

theorem Failure.opening_tooFew : (tooFew parser min actual index).opening = some 'E' :=
  head?_toList_append (head?_toList_append (head?_toList_append (head?_toList_append
    (head?_toList_append rfl _) _) _) _) _

theorem Failure.opening_excluded : (excluded parser index).opening = some 'E' :=
  head?_toList_append (head?_toList_append (head?_toList_append rfl _) _) _

theorem Failure.opening_unconverted : (unconverted parser error index).opening = some 'F' :=
  head?_toList_append (head?_toList_append (head?_toList_append rfl _) _) _

theorem Failure.opening_trailing : (trailing found index).opening = some 'E' :=
  head?_toList_append (head?_toList_append (head?_toList_append (head?_toList_append rfl _) _) _) _

theorem Failure.opening_invalidIndex : (invalidIndex index).opening = some 'I' :=
  head?_toList_append rfl _

end Messages

/-! ## §2. Where a failure points -/

/-- The failure is about the input from the index on: it names what was expected or could not be
converted, it points at a place that is no earlier, and if something should have ended there, then
it names the character that goes on instead. -/
structure Failure.Points (input : Text) (index : Nat) (failure : Failure) : Prop where
  opening : failure.opening = some 'E' ∨ failure.opening = some 'F'
  boundary : input.isBoundary failure.index = true
  le : index ≤ failure.index
  trailing : failure.kind = .termination → ∃ found rest,
    input.dropBytes? failure.index = some (found :: rest) ∧
      failure = .trailing found failure.index

/-- If the outcome is a failure, then it is about the input from the index on. -/
def Outcome.Points (input : Text) (index : Nat) : Outcome β → Prop
  | .success _ => True
  | .failure f => f.Points input index

section Points

variable {rules : ρ → Option (Parser ρ α)} {input : Text} {depth : ℕ∞} {task task' : Task ρ α}
  {index later : Nat} {failure : Failure} {outcome : Outcome (Value α)}

theorem Failure.Points.message_ne_empty (h : failure.Points input index) :
    failure.message ≠ "" := by
  intro hempty
  have hopening := h.opening
  unfold Failure.opening at hopening
  rw [hempty] at hopening
  simp at hopening

/-- It does not complain about the index. -/
theorem Failure.Points.message_ne_invalidIndex (h : failure.Points input index) (n : Nat) :
    failure.message ≠ (Failure.invalidIndex n).message := by
  intro hmessage
  have hinvalid : failure.opening = some 'I' := by
    unfold Failure.opening
    rw [hmessage]
    exact Failure.opening_invalidIndex n
  have hopening := h.opening
  rw [hinvalid] at hopening
  simp at hopening

/-- A failure to end points in front of the end. -/
theorem Failure.Points.index_lt_size (h : failure.Points input index)
    (hkind : failure.kind = .termination) : failure.index < input.size := by
  obtain ⟨found, rest, hrest, _⟩ := h.trailing hkind
  obtain ⟨front, rfl, hfront⟩ := Text.dropBytes?_eq_some_iff.1 hrest
  have hpos := found.utf8Size_pos
  simp only [Text.size_append, Text.size_cons]
  omega

theorem Failure.Points.mono (h : failure.Points input later) (hle : index ≤ later) :
    failure.Points input index :=
  ⟨h.opening, h.boundary, hle.trans h.le, h.trailing⟩

/-- A failure at the index itself that is not about the end of the input. -/
theorem Failure.points_here (hboundary : input.isBoundary failure.index = true)
    (hopening : failure.opening = some 'E' ∨ failure.opening = some 'F')
    (hkind : failure.kind ≠ .termination) : failure.Points input failure.index :=
  ⟨hopening, hboundary, Nat.le_refl _, fun h => absurd h hkind⟩

section Here

variable (hboundary : input.isBoundary index = true)
include hboundary

theorem matchLiteral_points (text : Text) :
    (matchLiteral input text index : Outcome (Value α)).Points input index := by
  unfold matchLiteral
  split
  · trivial
  · exact Failure.points_here hboundary (.inl (Failure.opening_expectedText text index))
      fun hkind => by cases hkind

theorem matchPattern_points (pattern : Pattern) :
    (matchPattern input pattern index : Outcome (Value α)).Points input index := by
  unfold matchPattern
  split
  · trivial
  · exact Failure.points_here hboundary (.inl (Failure.opening_expectedPattern _ index))
      fun hkind => by cases hkind

theorem noneMatched_points (all : List (Parser ρ α)) {termination : Option Failure}
    (h : ∀ failure ∈ termination, failure.Points input index) :
    (noneMatched all index termination).Points input index := by
  cases termination with
  | none =>
    exact Failure.points_here hboundary (.inl (Failure.opening_noAlternative _ index))
      fun hkind => by cases hkind
  | some failure => exact h failure rfl

/-- A repetition whose rounds end at a place of the input fails only for want of rounds. -/
theorem endLoop_points (body : Parser ρ α) (bounds : Bounds) (values : List (Value α))
    (hlater : input.isBoundary later = true) (hle : index ≤ later) :
    (endLoop input body bounds index later values).Points input index := by
  obtain ⟨text, htext⟩ := Text.exists_slice? hboundary hlater hle
  unfold endLoop finishRounds
  rw [htext]
  split
  · trivial
  · exact Failure.points_here hboundary (.inl (Failure.opening_tooFew _ _ _ index))
      fun hkind => by cases hkind

theorem orNothing_points (outcome : Outcome (Value α)) :
    (orNothing input index outcome).Points input index := by
  cases outcome with
  | success success => trivial
  | failure failure =>
    unfold orNothing
    rw [hboundary]
    trivial

theorem inverted_points (body : Parser ρ α) (outcome : Outcome (Value α)) :
    (inverted input body index outcome).Points input index := by
  cases outcome with
  | success success =>
    exact Failure.points_here hboundary (.inl (Failure.opening_excluded _ index))
      fun hkind => by cases hkind
  | failure failure =>
    unfold inverted
    rw [hboundary]
    trivial

theorem convertOutcome_points (body : Parser ρ α) (convert : Value α → Except String (Value α))
    (h : outcome.Points input index) :
    (convertOutcome body convert index outcome).Points input index := by
  cases outcome with
  | failure failure => exact h
  | success success =>
    simp only [convertOutcome]
    split
    · trivial
    · exact Failure.points_here hboundary (.inr (Failure.opening_unconverted _ _ index))
        fun hkind => by cases hkind

end Here

/-- Both parts of a sequence are slices, and so is what they make together. -/
theorem joinOutcome_points {front : Success (Value α)} (hfront : front.IsSlice input index)
    (hsliced : outcome.Sliced input front.stop) (h : outcome.Points input front.stop) :
    (joinOutcome input index front outcome).Points input index := by
  cases outcome with
  | failure failure => exact Failure.Points.mono h hfront.le_stop
  | success back =>
    have hboth := Text.slice?_append hfront.2 hsliced.2
    show (joinSequence input index front back).Points input index
    unfold joinSequence
    rw [hboth]
    trivial

/-- An anchor finds a place of the input behind a match, and there either nothing or a character. -/
theorem atEnd_points (hsliced : outcome.Sliced input index) (h : outcome.Points input index) :
    (atEnd input outcome).Points input index := by
  cases outcome with
  | failure failure => exact h
  | success success =>
    have hslice : success.IsSlice input index := hsliced
    have hstop : input.isBoundary success.stop = true := Text.isBoundary_stop_of_slice? hslice.2
    simp only [atEnd]
    split
    · trivial
    · next found rest hrest =>
      exact ⟨.inl (Failure.opening_trailing success.stop found), hstop, hslice.le_stop,
        fun _ => ⟨found, rest, hrest, rfl⟩⟩
    · next hnone =>
      unfold Text.isBoundary at hstop
      rw [hnone] at hstop
      cases hstop

theorem mapOutcome_points (convert : Value α → Value α) (h : outcome.Points input index) :
    (mapOutcome convert outcome).Points input index := by
  cases outcome with
  | success success => trivial
  | failure failure => exact h

/-- The failure that a choice promotes is one of those of its alternatives. -/
theorem firstTermination_cases (termination : Option Failure) (failure : Failure) :
    firstTermination termination failure = termination ∨
      firstTermination termination failure = some failure := by
  unfold firstTermination
  split
  · exact .inr rfl
  · exact .inl rfl

/-- **Where failures point**: from a place of the input on, at a place of the input. -/
theorem Evaluates.points (h : Evaluates rules input depth task outcome)
    (hinside : task.Inside input)
    (htermination : ∀ failure ∈ task.termination, failure.Points input task.start) :
    outcome.Points input task.start := by
  -- What a task asks for is inside, too, and its failures point no further back.
  induction h with
  | literal text index => exact matchLiteral_points hinside.start text
  | pattern expression index => exact matchPattern_points hinside.start expression
  | sequenceFails _ ih => exact ih (hinside.of_eq rfl rfl) nofun
  | sequence hfront hnext _ ih =>
    have hbehind := (hinside.of_asks (.next (hfront.mono le_top))).1
    exact joinOutcome_points hfront.isSlice hnext.sliced (ih hbehind nofun)
  | choice _ ih => exact ih (hinside.of_eq rfl rfl) nofun
  | exhausted all termination index =>
    exact noneMatched_points hinside.start all htermination
  | chosen _ _ => trivial
  | @passedOver _ all rest termination parser index failure outcome hparser _ ih₁ ih₂ =>
    refine ih₂ (hinside.of_eq rfl rfl) fun other hmem => ?_
    have hmem' : firstTermination termination failure = some other := hmem
    rcases firstTermination_cases termination failure with hold | hnew
    · exact htermination other (hold ▸ hmem')
    · rw [hnew] at hmem'
      cases hmem'
      exact ih₁ (hinside.of_eq rfl rfl) nofun
  | repetition _ ih => exact ih (hinside.of_eq rfl rfl) nofun
  | separated _ ih => exact ih (hinside.of_eq rfl rfl) nofun
  | unseparated _ _ _ ih => exact ih (hinside.of_eq rfl rfl) nofun
  | full _ => exact endLoop_points hinside.start _ _ _ hinside.place hinside.le
  | separatorFails _ _ _ _ => exact endLoop_points hinside.start _ _ _ hinside.place hinside.le
  | separatorMatches hadmits hne hseparator _ _ ih =>
    exact ih (hinside.of_asks (.behind hadmits hne (hseparator.mono le_top))).1 nofun
  | roundFails _ _ => exact endLoop_points hinside.start _ _ _ hinside.place hinside.le
  | roundStays hbody hstop _ =>
    have hle := hinside.le.trans hbody.start_le_stop
    have hboundary := hbody.isBoundary_stop
    rw [hstop] at hle hboundary
    exact endLoop_points hinside.start _ _ _ hboundary hle
  | roundMoves hbody hstop _ _ ih =>
    exact ih (hinside.of_asks (.again (hbody.mono le_top) hstop)).1 nofun
  | option _ _ => exact orNothing_points hinside.start _
  | negation _ _ => exact inverted_points hinside.start _ _
  | anchored hbody ih => exact atEnd_points hbody.sliced (ih (hinside.of_eq rfl rfl) nofun)
  | mapped _ ih => exact mapOutcome_points _ (ih (hinside.of_eq rfl rfl) nofun)
  | converted _ ih =>
    exact convertOutcome_points hinside.start _ _ (ih (hinside.of_eq rfl rfl) nofun)
  | deferred _ _ _ ih => exact ih (hinside.of_eq rfl rfl) nofun

/-- A parser that is run at a place of the input does not complain about an index. -/
theorem Evaluates.message_ne_invalidIndex {parser : Parser ρ α}
    (h : Evaluates rules input depth (.parse parser index) (.failure failure))
    (hboundary : input.isBoundary index = true) (n : Nat) :
    failure.message ≠ (Failure.invalidIndex n).message := by
  have hpoints : failure.Points input index := h.points (Task.inside_parse hboundary) nofun
  exact hpoints.message_ne_invalidIndex n

end Points

/-! ## §3. What made a failure -/

/-- Nodes of this sort make failures of this kind. Failures to match are made by all sorts. -/
def Parser.Makes : Parser ρ α → FailureKind → Prop
  | .converted _ _, .conversion => True
  | .negation _, .inversion => True
  | .anchored _, .termination => True
  | _, _ => False

section Makers

variable {node : Parser ρ α}

theorem Parser.Makes.exists_converted (h : node.Makes .conversion) :
    ∃ body convert, node = .converted body convert := by
  cases node with
  | converted body convert => exact ⟨body, convert, rfl⟩
  | _ => exact False.elim h

theorem Parser.Makes.exists_negation (h : node.Makes .inversion) :
    ∃ body, node = .negation body := by
  cases node with
  | negation body => exact ⟨body, rfl⟩
  | _ => exact False.elim h

theorem Parser.Makes.exists_anchored (h : node.Makes .termination) :
    ∃ body, node = .anchored body := by
  cases node with
  | anchored body => exact ⟨body, rfl⟩
  | _ => exact False.elim h

end Makers

/-- The failure is one to match, or the task uses a node that makes failures of its kind. -/
def Task.Blames (rules : ρ → Option (Parser ρ α)) (task : Task ρ α) (failure : Failure) : Prop :=
  failure.kind = .parsing ∨ ∃ node, task.Uses rules node ∧ node.Makes failure.kind

/-- If the outcome is a failure, then the task accounts for it, or had met it before. -/
def Outcome.BlamedOn (rules : ρ → Option (Parser ρ α)) (task : Task ρ α) : Outcome β → Prop
  | .success _ => True
  | .failure f => task.Blames rules f ∨ task.termination = some f

section Blames

variable {rules : ρ → Option (Parser ρ α)} {input : Text} {depth : ℕ∞} {task task' : Task ρ α}
  {parser : Parser ρ α} {index : Nat} {failure : Failure} {outcome : Outcome (Value α)}

theorem Task.Blames.of_asks (h : task'.Blames rules failure)
    (hasks : Task.Asks rules input task task') : task.Blames rules failure := by
  rcases h with hparsing | ⟨node, huses, hmakes⟩
  · exact .inl hparsing
  · exact .inr ⟨node, huses.of_asks hasks, hmakes⟩

/-- What is asked for anew has met no failures before. -/
theorem Outcome.BlamedOn.blames (input : Text) {outcome : Outcome β}
    (h : outcome.BlamedOn rules task') (hnone : task'.termination = none)
    (hasks : Task.Asks rules input task task') (hfailure : outcome = .failure failure) :
    task.Blames rules failure := by
  rw [hfailure] at h
  rcases h with hblames | hmet
  · exact hblames.of_asks hasks
  · rw [hnone] at hmet
    cases hmet

/-- An outcome that is handed on is accounted for, too. -/
theorem Outcome.BlamedOn.of_asks (input : Text) {outcome : Outcome β}
    (h : outcome.BlamedOn rules task') (hnone : task'.termination = none)
    (hasks : Task.Asks rules input task task') : outcome.BlamedOn rules task := by
  cases outcome with
  | success success => trivial
  | failure failure => exact .inl (h.blames input hnone hasks rfl)

/-- A node accounts for the failures that are made by its own sort. -/
theorem Parser.blames_self (h : parser.Makes failure.kind) :
    (Task.parse parser index).Blames rules failure :=
  .inr ⟨parser, .refl, h⟩

theorem matchLiteral_blamedOn (text : Text) :
    (matchLiteral input text index : Outcome (Value α)).BlamedOn rules task := by
  unfold matchLiteral
  split
  · trivial
  · exact .inl (.inl rfl)

theorem matchPattern_blamedOn (pattern : Pattern) :
    (matchPattern input pattern index : Outcome (Value α)).BlamedOn rules task := by
  unfold matchPattern
  split
  · trivial
  · exact .inl (.inl rfl)

theorem joinSequence_blamedOn (front back : Success (Value α)) :
    (joinSequence input index front back).BlamedOn rules task := by
  unfold joinSequence
  split
  · trivial
  · exact .inl (.inl rfl)

/-- A repetition fails to match, whatever its body or its separator said. -/
theorem endLoop_blamedOn (body : Parser ρ α) (bounds : Bounds) (position : Nat)
    (values : List (Value α)) :
    (endLoop input body bounds index position values).BlamedOn rules task := by
  unfold endLoop finishRounds
  split
  · split
    · trivial
    · exact .inl (.inl rfl)
  · exact .inl (.inl rfl)

theorem orNothing_blamedOn (outcome : Outcome (Value α)) :
    (orNothing input index outcome).BlamedOn rules task := by
  cases outcome with
  | success success => trivial
  | failure failure =>
    simp only [orNothing]
    split
    · trivial
    · exact .inl (.inl rfl)

/-- **What made a failure**: a failure of any kind but to match was made by a node of a sort that
makes such failures. -/
theorem Evaluates.blamedOn (h : Evaluates rules input depth task outcome) :
    outcome.BlamedOn rules task := by
  -- A failure is handed on to the task that asked, or is made by the node in front.
  induction h with
  | literal text index => exact matchLiteral_blamedOn text
  | pattern expression index => exact matchPattern_blamedOn expression
  | sequenceFails _ ih => exact ih.of_asks input rfl .first
  | @sequence _ first next index front outcome hfront _ _ ih =>
    cases outcome with
    | success back => exact joinSequence_blamedOn front back
    | failure failure => exact ih.of_asks input rfl (.next (hfront.mono le_top))
  | choice _ ih => exact ih.of_asks input rfl .choice
  | exhausted all termination index =>
    cases termination with
    | none => exact .inl (.inl rfl)
    | some failure => exact .inr rfl
  | chosen _ _ => trivial
  | @passedOver _ all rest termination parser index failure outcome hparser _ ih₁ ih₂ =>
    cases outcome with
    | success success => trivial
    | failure last =>
      rcases ih₂ with hblames | hmet
      · exact .inl (hblames.of_asks (.others (hparser.mono le_top)))
      · -- The failure was met before, or in the alternative that has just been passed over.
        have hmet' : firstTermination termination failure = some last := hmet
        rcases firstTermination_cases termination failure with hold | hnew
        · exact .inr (hold ▸ hmet')
        · rw [hnew] at hmet'
          cases hmet'
          exact .inl (ih₁.blames input rfl .alternative rfl)
  | repetition _ ih => exact ih.of_asks input rfl .repetition
  | separated _ ih => exact ih.of_asks input rfl .separated
  | unseparated hadmits hsep _ ih => exact ih.of_asks input rfl (.unseparated hadmits hsep)
  | full _ => exact endLoop_blamedOn _ _ _ _
  | separatorFails _ _ _ _ => exact endLoop_blamedOn _ _ _ _
  | separatorMatches hadmits hne hseparator _ _ ih =>
    exact ih.of_asks input rfl (.behind hadmits hne (hseparator.mono le_top))
  | roundFails _ _ => exact endLoop_blamedOn _ _ _ _
  | roundStays _ _ _ => exact endLoop_blamedOn _ _ _ _
  | roundMoves hbody hstop _ _ ih => exact ih.of_asks input rfl (.again (hbody.mono le_top) hstop)
  | option _ _ => exact orNothing_blamedOn _
  | @negation _ body index outcome _ _ =>
    cases outcome with
    | success success => exact .inl (Parser.blames_self trivial)
    | failure failure =>
      simp only [inverted]
      split
      · trivial
      · exact .inl (.inl rfl)
  | @anchored _ body index outcome _ ih =>
    cases outcome with
    | failure failure => exact ih.of_asks input rfl .anchored
    | success success =>
      simp only [atEnd]
      split
      · trivial
      · exact .inl (Parser.blames_self trivial)
      · exact .inl (.inl rfl)
  | @mapped _ body convert index outcome _ ih =>
    cases outcome with
    | failure failure => exact ih.of_asks input rfl .mapped
    | success success => trivial
  | @converted _ body convert index outcome _ ih =>
    cases outcome with
    | failure failure => exact ih.of_asks input rfl .converted
    | success success =>
      simp only [convertOutcome]
      split
      · trivial
      · exact .inl (Parser.blames_self trivial)
  | deferred hrule _ _ ih => exact ih.of_asks input rfl (.deferred hrule)

/-- A failure of a parser, of another kind than to match, was made by a node that the parser
holds. -/
theorem Evaluates.exists_maker {kind : FailureKind}
    (h : Evaluates rules input depth (.parse parser index) (.failure failure))
    (hkind : failure.kind = kind) (hne : kind ≠ .parsing) :
    ∃ node, parser.Holds rules node ∧ node.Makes kind := by
  rcases h.blamedOn with (hparsing | hmade) | hmet
  · exact absurd (hkind.symm.trans hparsing) hne
  · rw [← hkind]
    exact hmade
  · cases hmet

end Blames

end Backtrack
