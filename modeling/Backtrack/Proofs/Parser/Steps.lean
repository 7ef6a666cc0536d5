import Backtrack.Proofs.Parser.Names

/-! # What the steps of a parser share

    A parser is run in a monad by the calls it makes for deferred parsers,
    one after the other, and does nothing else there. A property of steps
    that a step without effect has, and that two steps one behind the other
    have where each of them does, is therefore one of the whole parser as
    soon as the calls have it.

    * `Composes.parseWith`: parsers. -/

namespace Backtrack

variable {m : Type → Type} [Monad m] {ρ α β γ : Type}

/-- The property carries over to steps that are made of steps with it. -/
structure Composes (property : ∀ β : Type, m β → Prop) : Prop where
  pure : ∀ {β : Type} (value : β), property β (pure value)
  bind : ∀ {β γ : Type} {step : m β} {next : β → m γ},
    property β step → (∀ value, property γ (next value)) → property γ (step >>= next)

namespace Composes

variable {property : ∀ β : Type, m β → Prop}

/-- A step that goes on in one way where it fails and in another where it succeeds. -/
theorem bind_outcome (h : Composes property) {step : m (Outcome β)} {next : Outcome β → m γ}
    (hstep : property _ step) (hfailure : ∀ failure, property _ (next (.failure failure)))
    (hsuccess : ∀ success, property _ (next (.success success))) :
    property _ (step >>= next) := by
  refine h.bind hstep fun outcome => ?_
  cases outcome with
  | failure failure => exact hfailure failure
  | success success => exact hsuccess success

/-! ## §1. Rounds -/

section Rounds

variable {step separator : Nat → m (Outcome β)} (bounds : Bounds)

theorem rounds (h : Composes property) (hstep : ∀ position, property _ (step position))
    (limit position count : Nat) (values : List β) :
    property _ (Backtrack.rounds step bounds limit position count values) := by
  induction limit generalizing position count values with
  | zero => exact h.pure _
  | succ limit ih =>
    unfold Backtrack.rounds
    split
    · refine h.bind_outcome (hstep position) (fun failure => h.pure _) fun success => ?_
      show property _ (if success.stop = position then _ else _)
      split
      · exact h.pure _
      · exact ih _ _ _
    · exact h.pure _

theorem separatedRounds (h : Composes property) (hstep : ∀ position, property _ (step position))
    (hseparator : ∀ position, property _ (separator position))
    (limit position count : Nat) (values : List β) :
    property _ (Backtrack.separatedRounds step separator bounds limit position count values) := by
  induction limit generalizing position count values with
  | zero => exact h.pure _
  | succ limit ih =>
    unfold Backtrack.separatedRounds
    split
    · refine h.bind ?_ fun behind => ?_
      · split
        · exact h.pure _
        · exact h.bind_outcome (hseparator position) (fun _ => h.pure _) fun _ => h.pure _
      · cases behind with
        | none => exact h.pure _
        | some behind =>
          refine h.bind_outcome (hstep behind) (fun failure => h.pure _) fun success => ?_
          show property _ (if success.stop = position then _ else _)
          split
          · exact h.pure _
          · exact ih _ _ _
    · exact h.pure _

end Rounds

/-! ## §2. Parsers -/

variable {call : ρ → Nat → m (Outcome (Value α))} {input : Text}

theorem chooseWith (h : Composes property) (all rest : List (Parser ρ α))
    (hrest : ∀ parser ∈ rest, ∀ index, property _ (parser.parseWith call input index))
    (termination : Option Failure) (index : Nat) :
    property _ (Parser.chooseWith call input all termination rest index) := by
  induction rest generalizing termination with
  | nil => exact h.pure _
  | cons parser rest ih =>
    obtain ⟨hparser, hrest⟩ := List.forall_mem_cons.1 hrest
    exact h.bind_outcome (hparser index) (fun failure => ih hrest _) fun success => h.pure _

/-- **A parser has the property if the calls have it.** -/
theorem parseWith (h : Composes property) (hcall : ∀ name index, property _ (call name index))
    (parser : Parser ρ α) (index : Nat) : property _ (parser.parseWith call input index) := by
  -- Along the parser: every step is one of its parts, or is without effect.
  induction parser using Parser.induction generalizing index with
  | literal text => exact h.pure _
  | pattern expression => exact h.pure _
  | sequence first next hfirst hnext =>
    refine h.bind_outcome (hfirst index) (fun failure => h.pure _) fun front => ?_
    exact h.bind_outcome (hnext front.stop) (fun failure => h.pure _) fun back => h.pure _
  | choice alternatives ih => exact h.chooseWith alternatives alternatives ih none index
  | repetition body bounds ih => exact h.bind (h.rounds bounds ih _ _ _ _) fun _ => h.pure _
  | separated body separator bounds hbody hseparator =>
    exact h.bind (h.separatedRounds bounds hbody hseparator _ _ _ _) fun _ => h.pure _
  | option body ih => exact h.bind (ih index) fun _ => h.pure _
  | negation body ih => exact h.bind (ih index) fun _ => h.pure _
  | anchored body ih => exact h.bind (ih index) fun _ => h.pure _
  | mapped body convert ih => exact h.bind (ih index) fun _ => h.pure _
  | converted body convert ih => exact h.bind (ih index) fun _ => h.pure _
  | deferred name => exact hcall name index

end Composes

end Backtrack
