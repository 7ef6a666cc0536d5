import Backtrack.Proofs.Parser.GreedyChain

/-! # Alternatives in order

    What becomes of alternatives that are tried one after the other at the
    same index. Either one of them is the first to succeed, or all fail and
    one is the first to fail for want of an end, or all fail otherwise. A
    choice answers with the match, with that failure, or with the list of
    its alternatives.

    Which of these it is does not depend on how alternatives are grouped. A
    choice among others comes to what its own alternatives come to in its
    place.

    * `answersAt_choice_iff`: the answers of a choice.
    * `SameVerdict.append`: alternatives in front and behind are exchanged
      each on their own.
    * `Parser.Gathers.sameVerdict`: any grouping, with any leaves. -/

namespace Backtrack

variable {σ τ ρ α β : Type}

/-! ## §1. Verdicts -/

/-- The alternative fails. -/
def Fails (answers : σ → Outcome β → Prop) (alternative : σ) : Prop :=
  ∃ failure, answers alternative (.failure failure)

/-- The alternative fails, but not for want of an end. -/
def Declines (answers : σ → Outcome β → Prop) (alternative : σ) : Prop :=
  ∃ failure, answers alternative (.failure failure) ∧ failure.kind ≠ .termination

/-- This is what the first alternative matches that succeeds. -/
def FirstMatch (answers : σ → Outcome β → Prop) (alternatives : List σ) (success : Success β) :
    Prop :=
  ∃ front alternative rest, alternatives = front ++ alternative :: rest ∧
    (∀ other ∈ front, Fails answers other) ∧ answers alternative (.success success)

/-- All alternatives fail, and this is how the first one fails that fails for want of an end. -/
def FirstEnd (answers : σ → Outcome β → Prop) (alternatives : List σ) (failure : Failure) : Prop :=
  failure.kind = .termination ∧ ∃ front alternative rest,
    alternatives = front ++ alternative :: rest ∧ (∀ other ∈ front, Declines answers other) ∧
      answers alternative (.failure failure) ∧ ∀ other ∈ rest, Fails answers other

/-- The answer of a choice of these alternatives, where the names are their written forms. -/
inductive Chooses (answers : σ → Outcome β → Prop) (names : List String) (index : Nat)
    (alternatives : List σ) : Outcome β → Prop where
  | matched {success : Success β} :
      FirstMatch answers alternatives success →
      Chooses answers names index alternatives (.success success)
  | ended {failure : Failure} :
      FirstEnd answers alternatives failure →
      Chooses answers names index alternatives (.failure failure)
  | declined :
      (∀ alternative ∈ alternatives, Declines answers alternative) →
      Chooses answers names index alternatives (.failure (.noAlternative names index))

section Verdicts

variable {answers : σ → Outcome β → Prop} {x : σ} {xs ys : List σ} {success : Success β}
  {failure : Failure} {names : List String} {index : Nat}

theorem Declines.fails (h : Declines answers x) : Fails answers x := by
  obtain ⟨failure, hfails, _⟩ := h
  exact ⟨failure, hfails⟩

theorem not_firstMatch_nil : ¬ FirstMatch answers [] success := by
  rintro ⟨front, alternative, rest, hsplit, _⟩
  simp at hsplit

/-- The first alternative matches, or it fails and another one is the first to match. -/
theorem firstMatch_cons_iff :
    FirstMatch answers (x :: xs) success ↔
      answers x (.success success) ∨ Fails answers x ∧ FirstMatch answers xs success := by
  constructor
  · rintro ⟨front, alternative, rest, hsplit, hfront, hmatch⟩
    cases front with
    | nil =>
      cases hsplit
      exact .inl hmatch
    | cons other front =>
      cases hsplit
      obtain ⟨hother, hfront⟩ := List.forall_mem_cons.1 hfront
      exact .inr ⟨hother, front, alternative, rest, rfl, hfront, hmatch⟩
  · rintro (hmatch | ⟨hfails, front, alternative, rest, rfl, hfront, hmatch⟩)
    · exact ⟨[], x, xs, rfl, fun _ hmem => absurd hmem List.not_mem_nil, hmatch⟩
    · exact ⟨x :: front, alternative, rest, rfl, List.forall_mem_cons.2 ⟨hfails, hfront⟩, hmatch⟩

theorem not_firstEnd_nil : ¬ FirstEnd answers [] failure := by
  rintro ⟨_, front, alternative, rest, hsplit, _⟩
  simp at hsplit

/-- The first alternative fails for want of an end, or another one is the first to do so. -/
theorem firstEnd_cons_iff :
    FirstEnd answers (x :: xs) failure ↔
      (failure.kind = .termination ∧ answers x (.failure failure) ∧
        ∀ other ∈ xs, Fails answers other) ∨
      Declines answers x ∧ FirstEnd answers xs failure := by
  constructor
  · rintro ⟨hkind, front, alternative, rest, hsplit, hfront, hfails, hrest⟩
    cases front with
    | nil =>
      cases hsplit
      exact .inl ⟨hkind, hfails, hrest⟩
    | cons other front =>
      cases hsplit
      obtain ⟨hother, hfront⟩ := List.forall_mem_cons.1 hfront
      exact .inr ⟨hother, hkind, front, alternative, rest, rfl, hfront, hfails, hrest⟩
  · rintro (⟨hkind, hfails, hrest⟩ |
      ⟨hdeclines, hkind, front, alternative, rest, rfl, hfront, hfails, hrest⟩)
    · exact ⟨hkind, [], x, xs, rfl, fun _ hmem => absurd hmem List.not_mem_nil, hfails, hrest⟩
    · exact ⟨hkind, x :: front, alternative, rest, rfl,
        List.forall_mem_cons.2 ⟨hdeclines, hfront⟩, hfails, hrest⟩

/-- Where all fail, there is a first one that fails for want of an end, or none does. -/
theorem forall_fails_iff :
    (∀ x ∈ xs, Fails answers x) ↔
      (∃ failure, FirstEnd answers xs failure) ∨ ∀ x ∈ xs, Declines answers x := by
  induction xs with
  | nil => simp [not_firstEnd_nil]
  | cons x xs ih =>
    rw [List.forall_mem_cons, List.forall_mem_cons]
    constructor
    · intro h
      obtain ⟨⟨failure, hfails⟩, hrest⟩ := h
      by_cases hkind : failure.kind = .termination
      · exact .inl ⟨failure, firstEnd_cons_iff.2 (.inl ⟨hkind, hfails, hrest⟩)⟩
      · have hdeclines : Declines answers x := ⟨failure, hfails, hkind⟩
        rcases ih.1 hrest with ⟨other, hend⟩ | hall
        · exact .inl ⟨other, firstEnd_cons_iff.2 (.inr ⟨hdeclines, hend⟩)⟩
        · exact .inr ⟨hdeclines, hall⟩
    · rintro (⟨failure, hend⟩ | ⟨hdeclines, hall⟩)
      · rcases firstEnd_cons_iff.1 hend with ⟨_, hfails, hrest⟩ | ⟨hdeclines, hend⟩
        · exact ⟨⟨failure, hfails⟩, hrest⟩
        · exact ⟨hdeclines.fails, ih.2 (.inl ⟨failure, hend⟩)⟩
      · exact ⟨hdeclines.fails, ih.2 (.inr hall)⟩

/-- Where all answer, there is a first match, or all fail. -/
theorem exists_firstMatch_or (h : ∀ x ∈ xs, ∃ outcome, answers x outcome) :
    (∃ success, FirstMatch answers xs success) ∨ ∀ x ∈ xs, Fails answers x := by
  induction xs with
  | nil =>
    right
    intro x hmem
    cases hmem
  | cons x xs ih =>
    obtain ⟨⟨outcome, houtcome⟩, hrest⟩ := List.forall_mem_cons.1 h
    cases outcome with
    | success success => exact .inl ⟨success, firstMatch_cons_iff.2 (.inl houtcome)⟩
    | failure failure =>
      have hfails : Fails answers x := ⟨failure, houtcome⟩
      rcases ih hrest with ⟨success, hmatch⟩ | hall
      · exact .inl ⟨success, firstMatch_cons_iff.2 (.inr ⟨hfails, hmatch⟩)⟩
      · exact .inr (List.forall_mem_cons.2 ⟨hfails, hall⟩)

theorem firstMatch_append_iff :
    FirstMatch answers (xs ++ ys) success ↔
      FirstMatch answers xs success ∨
        (∀ x ∈ xs, Fails answers x) ∧ FirstMatch answers ys success := by
  induction xs with
  | nil => simp [not_firstMatch_nil]
  | cons x xs ih =>
    rw [List.cons_append, firstMatch_cons_iff, firstMatch_cons_iff, ih, List.forall_mem_cons]
    tauto

theorem firstEnd_append_iff :
    FirstEnd answers (xs ++ ys) failure ↔
      (FirstEnd answers xs failure ∧ ∀ y ∈ ys, Fails answers y) ∨
        (∀ x ∈ xs, Declines answers x) ∧ FirstEnd answers ys failure := by
  induction xs with
  | nil => simp [not_firstEnd_nil]
  | cons x xs ih =>
    rw [List.cons_append, firstEnd_cons_iff, firstEnd_cons_iff, ih, List.forall_mem_cons,
      List.forall_mem_append]
    tauto

/-- A match is the first one. -/
theorem chooses_success_iff :
    Chooses answers names index xs (.success success) ↔ FirstMatch answers xs success := by
  constructor
  · intro h
    cases h with
    | matched hmatch => exact hmatch
  · exact .matched

/-- A failure for want of an end is the first one. -/
theorem chooses_termination_iff (hkind : failure.kind = .termination) :
    Chooses answers names index xs (.failure failure) ↔ FirstEnd answers xs failure := by
  constructor
  · intro h
    cases h with
    | ended hend => exact hend
    | declined _ => cases hkind
  · exact .ended

/-- Any other failure has the list of the alternatives for its reason. -/
theorem chooses_failure_iff (hkind : failure.kind ≠ .termination) :
    Chooses answers names index xs (.failure failure) ↔
      (∀ x ∈ xs, Declines answers x) ∧ failure = .noAlternative names index := by
  constructor
  · intro h
    cases h with
    | ended hend => exact absurd hend.1 hkind
    | declined hall => exact ⟨hall, rfl⟩
  · rintro ⟨hall, rfl⟩
    exact .declined hall

/-- Alternatives that all answer come to something. -/
theorem exists_chooses (names : List String) (index : Nat)
    (h : ∀ x ∈ xs, ∃ outcome, answers x outcome) :
    ∃ outcome, Chooses answers names index xs outcome := by
  rcases exists_firstMatch_or h with ⟨success, hmatch⟩ | hfails
  · exact ⟨_, .matched hmatch⟩
  rcases forall_fails_iff.1 hfails with ⟨failure, hend⟩ | hall
  · exact ⟨_, .ended hend⟩
  · exact ⟨_, .declined hall⟩

end Verdicts

/-! ## §2. The same verdict -/

/-- The same match comes first in both, or the same failure for want of an end, or all of them fail
otherwise. -/
structure SameVerdict (answers : σ → Outcome β → Prop) (answers' : τ → Outcome β → Prop)
    (xs : List σ) (ys : List τ) : Prop where
  matched : ∀ success, FirstMatch answers xs success ↔ FirstMatch answers' ys success
  ended : ∀ failure, FirstEnd answers xs failure ↔ FirstEnd answers' ys failure
  declined : (∀ x ∈ xs, Declines answers x) ↔ ∀ y ∈ ys, Declines answers' y

namespace SameVerdict

variable {answers : σ → Outcome β → Prop} {answers' : τ → Outcome β → Prop} {xs xs' : List σ}
  {ys ys' : List τ}

theorem refl (answers : σ → Outcome β → Prop) (xs : List σ) : SameVerdict answers answers xs xs :=
  ⟨fun _ => Iff.rfl, fun _ => Iff.rfl, Iff.rfl⟩

theorem symm (h : SameVerdict answers answers' xs ys) : SameVerdict answers' answers ys xs where
  matched success := (h.matched success).symm
  ended failure := (h.ended failure).symm
  declined := h.declined.symm

theorem trans {υ : Type} {answers'' : υ → Outcome β → Prop} {zs : List υ}
    (h : SameVerdict answers answers' xs ys) (h' : SameVerdict answers' answers'' ys zs) :
    SameVerdict answers answers'' xs zs where
  matched success := (h.matched success).trans (h'.matched success)
  ended failure := (h.ended failure).trans (h'.ended failure)
  declined := h.declined.trans h'.declined

theorem fails_iff (h : SameVerdict answers answers' xs ys) :
    (∀ x ∈ xs, Fails answers x) ↔ ∀ y ∈ ys, Fails answers' y := by
  rw [forall_fails_iff, forall_fails_iff, h.declined]
  simp only [h.ended]

/-- Alternatives in front and alternatives behind may be exchanged each on their own. -/
theorem append (h : SameVerdict answers answers' xs ys)
    (h' : SameVerdict answers answers' xs' ys') :
    SameVerdict answers answers' (xs ++ xs') (ys ++ ys') where
  matched success := by
    rw [firstMatch_append_iff, firstMatch_append_iff, h.matched, h.fails_iff, h'.matched]
  ended failure := by
    rw [firstEnd_append_iff, firstEnd_append_iff, h.ended, h.declined, h'.fails_iff, h'.ended]
  declined := by
    rw [List.forall_mem_append, List.forall_mem_append, h.declined, h'.declined]

/-- Alternatives that answer alike, one by one. -/
theorem of_forall₂
    (h : List.Forall₂ (fun x y => ∀ outcome, answers x outcome ↔ answers' y outcome) xs ys) :
    SameVerdict answers answers' xs ys := by
  induction h with
  | nil =>
    refine ⟨fun success => ?_, fun failure => ?_, ?_⟩
    · simp only [not_firstMatch_nil]
    · simp only [not_firstEnd_nil]
    · simp
  | @cons x y xs ys hfirst _ ih =>
    have hfails : Fails answers x ↔ Fails answers' y := by simp only [Fails, hfirst]
    have hdeclines : Declines answers x ↔ Declines answers' y := by simp only [Declines, hfirst]
    refine ⟨fun success => ?_, fun failure => ?_, ?_⟩
    · rw [firstMatch_cons_iff, firstMatch_cons_iff, hfirst, hfails, ih.matched]
    · rw [firstEnd_cons_iff, firstEnd_cons_iff, hfirst, hdeclines, ih.fails_iff, ih.ended]
    · rw [List.forall_mem_cons, List.forall_mem_cons, hdeclines, ih.declined]

/-- Choices of them answer alike, but for the names. -/
theorem chooses_iff (h : SameVerdict answers answers' xs ys) {names : List String} {index : Nat}
    {outcome : Outcome β} :
    Chooses answers names index xs outcome ↔ Chooses answers' names index ys outcome := by
  constructor
  · intro hchooses
    cases hchooses with
    | matched hmatch => exact .matched ((h.matched _).1 hmatch)
    | ended hend => exact .ended ((h.ended _).1 hend)
    | declined hall => exact .declined (h.declined.1 hall)
  · intro hchooses
    cases hchooses with
    | matched hmatch => exact .matched ((h.matched _).2 hmatch)
    | ended hend => exact .ended ((h.ended _).2 hend)
    | declined hall => exact .declined (h.declined.2 hall)

/-- An alternative that answers as a choice does is as good as the alternatives of that choice. -/
theorem of_chooses {x : σ} {names : List String} {index : Nat}
    (h : ∀ outcome, answers x outcome ↔ Chooses answers' names index ys outcome) :
    SameVerdict answers answers' [x] ys where
  matched success := by
    rw [firstMatch_cons_iff, h, chooses_success_iff]
    simp [not_firstMatch_nil]
  ended failure := by
    rw [firstEnd_cons_iff]
    constructor
    · rintro (⟨hkind, hfails, _⟩ | ⟨_, hend⟩)
      · exact (chooses_termination_iff hkind).1 ((h _).1 hfails)
      · exact absurd hend not_firstEnd_nil
    · intro hend
      exact .inl ⟨hend.1, (h _).2 (.ended hend), by simp⟩
  declined := by
    rw [List.forall_mem_singleton]
    constructor
    · rintro ⟨failure, hfails, hkind⟩
      exact ((chooses_failure_iff hkind).1 ((h _).1 hfails)).1
    · intro hall
      exact ⟨.noAlternative names index, (h _).2 (.declined hall), nofun⟩

end SameVerdict

/-! ## §3. Choices -/

section Choices

variable {rules : ρ → Option (Parser ρ α)} {input : Text} {index : Nat}
  {all rest : List (Parser ρ α)} {termination : Option Failure} {outcome : Outcome (Value α)}

/-- What the alternatives that are left come to, where `termination` is the first failure for want
of an end among the earlier ones. -/
theorem evaluates_choose_iff :
    Evaluates rules input ⊤ (.choose all termination rest index) outcome ↔
      (∃ success, FirstMatch (fun parser => parser.AnswersAt rules input index) rest success ∧
        outcome = .success success) ∨
      (∃ failure, FirstEnd (fun parser => parser.AnswersAt rules input index) rest failure ∧
        outcome = .failure (termination.getD failure)) ∨
      (∀ parser ∈ rest, Declines (fun parser => parser.AnswersAt rules input index) parser) ∧
        outcome = .failure (noneMatched all index termination) := by
  -- The failure that is kept changes from one alternative to the next.
  induction rest generalizing termination with
  | nil =>
    rw [evaluates_choose_nil_iff]
    simp [not_firstMatch_nil, not_firstEnd_nil]
  | cons parser rest ih =>
    rw [evaluates_choose_cons_iff]
    simp only [firstMatch_cons_iff, firstEnd_cons_iff, List.forall_mem_cons]
    constructor
    · rintro (⟨success, hmatch, rfl⟩ | ⟨failure, hfails, hrest⟩)
      · exact .inl ⟨success, .inl hmatch, rfl⟩
      by_cases hkind : failure.kind = .termination
      · -- It is kept unless an earlier one was, and only a match can still replace it.
        rw [firstTermination_of_termination hkind] at hrest
        rcases ih.1 hrest with ⟨success, hmatch, rfl⟩ | ⟨other, hend, rfl⟩ | ⟨hall, rfl⟩
        · exact .inl ⟨success, .inr ⟨⟨failure, hfails⟩, hmatch⟩, rfl⟩
        · have hothers := forall_fails_iff.2 (.inl ⟨other, hend⟩)
          exact .inr (.inl ⟨failure, .inl ⟨hkind, hfails, hothers⟩, rfl⟩)
        · have hothers := forall_fails_iff.2 (.inr hall)
          exact .inr (.inl ⟨failure, .inl ⟨hkind, hfails, hothers⟩, rfl⟩)
      · rw [firstTermination_of_ne hkind] at hrest
        rcases ih.1 hrest with ⟨success, hmatch, rfl⟩ | ⟨other, hend, rfl⟩ | ⟨hall, rfl⟩
        · exact .inl ⟨success, .inr ⟨⟨failure, hfails⟩, hmatch⟩, rfl⟩
        · exact .inr (.inl ⟨other, .inr ⟨⟨failure, hfails, hkind⟩, hend⟩, rfl⟩)
        · exact .inr (.inr ⟨⟨⟨failure, hfails, hkind⟩, hall⟩, rfl⟩)
    · rintro (⟨success, hmatch | ⟨⟨failure, hfails⟩, hmatch⟩, rfl⟩ |
        ⟨failure, ⟨hkind, hfails, hothers⟩ | ⟨⟨other, hfails, hkind⟩, hend⟩, rfl⟩ |
        ⟨⟨⟨failure, hfails, hkind⟩, hall⟩, rfl⟩)
      · exact .inl ⟨success, hmatch, rfl⟩
      · exact .inr ⟨failure, hfails, ih.2 (.inl ⟨success, hmatch, rfl⟩)⟩
      · -- Those that are left may end as they like, since none of them matches.
        refine .inr ⟨failure, hfails, ?_⟩
        rw [firstTermination_of_termination hkind, ih]
        rcases forall_fails_iff.1 hothers with ⟨other, hend⟩ | hall
        · exact .inr (.inl ⟨other, hend, rfl⟩)
        · exact .inr (.inr ⟨hall, rfl⟩)
      · refine .inr ⟨other, hfails, ?_⟩
        rw [firstTermination_of_ne hkind, ih]
        exact .inr (.inl ⟨failure, hend, rfl⟩)
      · refine .inr ⟨failure, hfails, ?_⟩
        rw [firstTermination_of_ne hkind, ih]
        exact .inr (.inr ⟨hall, rfl⟩)

/-- **A choice** answers with the first match, or else with the first failure for want of an end, or
else with the list of its alternatives. -/
theorem answersAt_choice_iff {alternatives : List (Parser ρ α)} :
    (Parser.choice alternatives).AnswersAt rules input index outcome ↔
      Chooses (fun parser => parser.AnswersAt rules input index)
        (Parser.renderAll alternatives) index alternatives outcome := by
  unfold Parser.AnswersAt
  rw [evaluates_choice_iff, evaluates_choose_iff]
  constructor
  · rintro (⟨success, hmatch, rfl⟩ | ⟨failure, hend, rfl⟩ | ⟨hall, rfl⟩)
    · exact .matched hmatch
    · exact .ended hend
    · exact .declined hall
  · intro h
    cases h with
    | matched hmatch => exact .inl ⟨_, hmatch, rfl⟩
    | ended hend => exact .inr (.inl ⟨_, hend, rfl⟩)
    | declined hall => exact .inr (.inr ⟨hall, rfl⟩)

end Choices

/-! ## §4. Groupings -/

/-- The parser is put together from these leaves, in this order, by choices, empty ones among them,
and by `or`, which takes in another alternative where the first parser is a choice and makes a
choice of two parsers where it is not. A leaf may be any parser. -/
inductive Parser.Gathers : Parser ρ α → List (Parser ρ α) → Prop where
  | leaf (parser : Parser ρ α) : Gathers parser [parser]
  | choice (parts : List (Parser ρ α × List (Parser ρ α))) :
      (∀ part ∈ parts, Gathers part.1 part.2) →
      Gathers (.choice (parts.map Prod.fst)) (parts.flatMap Prod.snd)
  | or {first next : Parser ρ α} {leaves leaves' : List (Parser ρ α)} :
      Gathers first leaves → Gathers next leaves' → Gathers (first.or next) (leaves ++ leaves')

namespace Parser

section Groupings

/-! The answers are those of parsers that are sound in some sense, where a choice is sound if its
alternatives are. -/

variable {answers : Parser ρ α → Outcome (Value α) → Prop} {sound : Parser ρ α → Prop}
  {first next parser : Parser ρ α} {leaves : List (Parser ρ α)}
  (hsound : ∀ alternatives, sound (.choice alternatives) ↔ ∀ parser ∈ alternatives, sound parser)
include hsound

theorem sound_or_iff : sound (first.or next) ↔ sound first ∧ sound next := by
  cases first with
  | choice alternatives =>
    show sound (.choice (alternatives ++ [next])) ↔ _
    rw [hsound, hsound, List.forall_mem_append, List.forall_mem_singleton]
  | _ =>
    show sound (.choice [_, next]) ↔ _
    rw [hsound, List.forall_mem_cons, List.forall_mem_singleton]

/-- What is put together from leaves is sound if the leaves are. -/
theorem Gathers.sound_iff (h : parser.Gathers leaves) :
    sound parser ↔ ∀ leaf ∈ leaves, sound leaf := by
  induction h with
  | leaf parser => rw [List.forall_mem_singleton]
  | choice parts _ ih =>
    rw [hsound]
    constructor
    · intro hall leaf hmem
      obtain ⟨part, hpart, hleaf⟩ := List.mem_flatMap.1 hmem
      exact (ih part hpart).1 (hall part.1 (List.mem_map_of_mem hpart)) leaf hleaf
    · intro hall parser hmem
      obtain ⟨part, hpart, rfl⟩ := List.mem_map.1 hmem
      apply (ih part hpart).2
      intro leaf hleaf
      exact hall leaf (List.mem_flatMap.2 ⟨part, hpart, hleaf⟩)
  | or _ _ ihfirst ihnext =>
    rw [sound_or_iff hsound, ihfirst, ihnext, List.forall_mem_append]

variable (hchoice : ∀ alternatives, sound (.choice alternatives) →
  SameVerdict answers answers [.choice alternatives] alternatives)
include hchoice

/-- Whether `or` takes in the next parser or makes a choice of two, the two parsers come one after
the other. -/
theorem sameVerdict_or (h : sound (first.or next)) :
    SameVerdict answers answers [first.or next] [first, next] := by
  have hfirst := ((sound_or_iff hsound).1 h).1
  -- Only a choice takes in the next parser.
  cases first with
  | choice alternatives =>
    have hinner := hchoice alternatives hfirst
    exact (hchoice (alternatives ++ [next]) h).trans (hinner.symm.append (.refl answers [next]))
  | _ => exact hchoice _ h

/-- **Grouping does not matter.** What is put together from leaves comes to what the leaves come to
one after the other. -/
theorem Gathers.sameVerdict (h : parser.Gathers leaves) (hparser : sound parser) :
    SameVerdict answers answers [parser] leaves := by
  induction h with
  | leaf parser => exact .refl answers [parser]
  | choice parts hgathers ih =>
    refine (hchoice _ hparser).trans ?_
    have hparts := (hsound _).1 hparser
    clear hparser hgathers
    -- Part by part, each one is exchanged for its own leaves.
    induction parts with
    | nil => exact .refl answers []
    | cons part parts ihparts =>
      obtain ⟨hpart, hparts⟩ := List.forall_mem_cons.1 hparts
      have hfront := ih part List.mem_cons_self hpart
      have hbehind := ihparts (fun other hmem => ih other (List.mem_cons_of_mem _ hmem)) hparts
      exact hfront.append hbehind
  | @or first next leaves leaves' _ _ ihfirst ihnext =>
    obtain ⟨hfirst, hnext⟩ := (sound_or_iff hsound).1 hparser
    have hboth : SameVerdict answers answers ([first] ++ [next]) (leaves ++ leaves') :=
      (ihfirst hfirst).append (ihnext hnext)
    exact (sameVerdict_or hsound hchoice hparser).trans hboth

end Groupings

end Parser

end Backtrack
