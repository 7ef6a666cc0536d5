import Backtrack.Inspect
import Backtrack.Proofs.Parser.GreedyChain

/-! # Bracketings

    Several parsers can be put into a sequence in as many ways as there are
    to bracket them. All of these run the same steps, one behind the other
    and each of them where the one before it stopped, so that they match
    together and fail together. What they match is bracketed as they are.

    Neither a parser nor a value shows how it is bracketed: joining texts by
    tildes is associative.

    * `Bracketing.fold_congr`: what an associative operation makes of it.
    * `Bracketing.answersAt_together`, `Bracketing.exists_of_answersAt`:
      sequences that succeed, by their steps.
    * `Bracketing.answersAt_failure_iff`: sequences that fail. -/

namespace Backtrack

variable {ρ α β σ τ : Type}

/-! ## §1. Bracketings -/

/-- A way to bracket things that stand in a row. -/
inductive Bracketing (σ : Type) where
  | step (step : σ)
  | pair (first next : Bracketing σ)

namespace Bracketing

/-- What is bracketed, in order. -/
def steps : Bracketing σ → List σ
  | step x => [x]
  | pair first next => first.steps ++ next.steps

/-- The same brackets around other things. -/
def map (f : σ → τ) : Bracketing σ → Bracketing τ
  | step x => step (f x)
  | pair first next => pair (first.map f) (next.map f)

/-- The brackets alone. -/
def shape (t : Bracketing σ) : Bracketing Unit :=
  t.map fun _ => ()

/-- Joins what each pair of brackets holds. -/
def fold (join : σ → σ → σ) : Bracketing σ → σ
  | step x => x
  | pair first next => join (first.fold join) (next.fold join)

/-- Brackets that close behind each further step. -/
def left (first : σ) (rest : List σ) : Bracketing σ :=
  rest.foldl (fun t x => pair t (step x)) (step first)

section Steps

variable {t first next : Bracketing σ} {u : Bracketing τ}

theorem steps_ne_nil (t : Bracketing σ) : t.steps ≠ [] := by
  induction t with
  | step x => exact List.cons_ne_nil x []
  | pair first next ihfirst _ => exact List.append_ne_nil_of_left_ne_nil ihfirst next.steps

@[simp] theorem steps_map (f : σ → τ) (t : Bracketing σ) : (t.map f).steps = t.steps.map f := by
  induction t with
  | step x => rfl
  | pair first next ihfirst ihnext =>
    show (first.map f).steps ++ (next.map f).steps = (first.steps ++ next.steps).map f
    rw [ihfirst, ihnext, List.map_append]

@[simp] theorem shape_map (f : σ → τ) (t : Bracketing σ) : (t.map f).shape = t.shape := by
  induction t with
  | step x => rfl
  | pair first next ihfirst ihnext =>
    show pair (first.map f).shape (next.map f).shape = pair first.shape next.shape
    rw [ihfirst, ihnext]

theorem length_steps_of_shape (h : t.shape = u.shape) : t.steps.length = u.steps.length := by
  have hlength := congrArg (fun brackets => brackets.steps.length) h
  simpa only [shape, steps_map, List.length_map] using hlength

theorem exists_of_shape_step {x : τ} (h : t.shape = (step x).shape) : ∃ y, t = step y := by
  cases t with
  | step y => exact ⟨y, rfl⟩
  | pair first next => cases h

theorem exists_of_shape_pair {u v : Bracketing τ} (h : t.shape = (pair u v).shape) :
    ∃ first next, t = pair first next ∧ first.shape = u.shape ∧ next.shape = v.shape := by
  cases t with
  | step x => cases h
  | pair first next =>
    obtain ⟨hfirst, hnext⟩ := pair.inj h
    exact ⟨first, next, rfl, hfirst, hnext⟩

/-- The brackets can be put around any things of the same number. -/
theorem exists_of_length (t : Bracketing σ) {xs : List τ} (h : xs.length = t.steps.length) :
    ∃ u : Bracketing τ, u.shape = t.shape ∧ u.steps = xs := by
  induction t generalizing xs with
  | step x =>
    obtain ⟨y, rfl⟩ := List.length_eq_one_iff.1 h
    exact ⟨step y, rfl, rfl⟩
  | pair first next ihfirst ihnext =>
    have hlength : xs.length = first.steps.length + next.steps.length := by
      rw [h]
      exact List.length_append
    obtain ⟨u, hu, husteps⟩ := @ihfirst (xs.take first.steps.length) (by
      rw [List.length_take, hlength]
      omega)
    obtain ⟨v, hv, hvsteps⟩ := @ihnext (xs.drop first.steps.length) (by
      rw [List.length_drop, hlength]
      omega)
    refine ⟨pair u v, ?_, ?_⟩
    · show pair u.shape v.shape = pair first.shape next.shape
      rw [hu, hv]
    · show u.steps ++ v.steps = xs
      rw [husteps, hvsteps, List.take_append_drop]

/-- A bracketing is its brackets and its steps. -/
theorem eq_of_shape_of_steps {t' : Bracketing σ} (hshape : t.shape = t'.shape)
    (hsteps : t.steps = t'.steps) : t = t' := by
  induction t generalizing t' with
  | step x =>
    obtain ⟨y, rfl⟩ := exists_of_shape_step hshape.symm
    rw [List.singleton_inj.1 hsteps]
  | pair first next ihfirst ihnext =>
    obtain ⟨first', next', rfl, hfirst, hnext⟩ := exists_of_shape_pair hshape.symm
    obtain ⟨hfront, hback⟩ :=
      List.append_inj hsteps (length_steps_of_shape hfirst).symm
    rw [ihfirst hfirst.symm hfront, ihnext hnext.symm hback]

end Steps

/-! ## §2. What becomes of the brackets -/

section Folds

variable {join : σ → σ → σ} {join' : τ → τ → τ} {t t' : Bracketing σ}

/-- What respects the joining can be done to each step beforehand. -/
theorem fold_map {f : σ → τ} (h : ∀ x y, f (join x y) = join' (f x) (f y)) (t : Bracketing σ) :
    f (t.fold join) = (t.map f).fold join' := by
  induction t with
  | step x => rfl
  | pair first next ihfirst ihnext =>
    show f (join (first.fold join) (next.fold join)) =
      join' ((first.map f).fold join') ((next.map f).fold join')
    rw [h, ihfirst, ihnext]

theorem join_fold (hassoc : ∀ x y z, join (join x y) z = join x (join y z)) (x : σ)
    (t : Bracketing σ) : join x (t.fold join) = t.steps.foldl join x := by
  induction t generalizing x with
  | step y => rfl
  | pair first next ihfirst ihnext =>
    show join x (join (first.fold join) (next.fold join)) =
      (first.steps ++ next.steps).foldl join x
    rw [← hassoc, ihfirst, ihnext, List.foldl_append]

theorem fold_eq_foldl (hassoc : ∀ x y z, join (join x y) z = join x (join y z)) {x : σ}
    {rest : List σ} (h : t.steps = x :: rest) : t.fold join = rest.foldl join x := by
  induction t generalizing rest with
  | step y =>
    cases h
    rfl
  | pair first next ihfirst _ =>
    have hsteps : first.steps ++ next.steps = x :: rest := h
    show join (first.fold join) (next.fold join) = rest.foldl join x
    rw [join_fold hassoc]
    rcases List.append_eq_cons_iff.1 hsteps with ⟨hnil, _⟩ | ⟨front, hfront, rfl⟩
    · exact absurd hnil first.steps_ne_nil
    · rw [ihfirst hfront, List.foldl_append]

/-- **Where joining is associative the brackets do not matter.** -/
theorem fold_congr (hassoc : ∀ x y z, join (join x y) z = join x (join y z))
    (h : t.steps = t'.steps) : t.fold join = t'.fold join := by
  obtain ⟨x, rest, hsteps⟩ := List.exists_cons_of_ne_nil t.steps_ne_nil
  rw [fold_eq_foldl hassoc hsteps, fold_eq_foldl hassoc (h.symm.trans hsteps)]

end Folds

section Left

variable (f : σ → τ) (join : σ → σ → σ) (first : σ) (rest : List σ)

@[simp] theorem steps_left : (left first rest).steps = first :: rest := by
  have hfold (t : Bracketing σ) :
      (rest.foldl (fun t x => pair t (step x)) t).steps = t.steps ++ rest := by
    induction rest generalizing t with
    | nil => exact (List.append_nil t.steps).symm
    | cons x rest ih =>
      show (rest.foldl _ (pair t (step x))).steps = t.steps ++ x :: rest
      rw [ih]
      exact List.append_assoc t.steps [x] rest
  exact hfold (step first)

theorem map_left : (left first rest).map f = left (f first) (rest.map f) := by
  have hfold (t : Bracketing σ) : (rest.foldl (fun t x => pair t (step x)) t).map f =
      (rest.map f).foldl (fun t x => pair t (step x)) (t.map f) := by
    induction rest generalizing t with
    | nil => rfl
    | cons x rest ih => exact ih (pair t (step x))
  exact hfold (step first)

theorem fold_left : (left first rest).fold join = rest.foldl join first := by
  have hfold (t : Bracketing σ) : (rest.foldl (fun t x => pair t (step x)) t).fold join =
      rest.foldl join (t.fold join) := by
    induction rest generalizing t with
    | nil => rfl
    | cons x rest ih => exact ih (pair t (step x))
  exact hfold (step first)

end Left

/-! Parsers and values do not show their brackets. -/

/-- Two texts joined by a tilde. -/
def tilde (first next : String) : String :=
  first ++ " ~ " ++ next

theorem tilde_assoc (a b c : String) : tilde (tilde a b) c = tilde a (tilde b c) := by
  simp only [tilde, String.append_assoc]

/-- Texts of the steps, joined by tildes, show the steps alone. -/
theorem fold_tilde_congr (f : σ → String) {t t' : Bracketing σ} (h : t.steps = t'.steps) :
    (t.map f).fold tilde = (t'.map f).fold tilde := by
  apply fold_congr tilde_assoc
  rw [steps_map, steps_map, h]

theorem render_fold (t : Bracketing (Parser ρ α)) :
    (t.fold .sequence).render = (t.map Parser.render).fold tilde :=
  fold_map (fun _ _ => rfl) t

theorem inspect_fold (atomText : α → String) (t : Bracketing (Value α)) :
    (t.fold .pair).inspect atomText = (t.map (Value.inspect atomText)).fold tilde :=
  fold_map (fun _ _ => rfl) t

/-- What a value shows is what its steps show. -/
theorem inspect_fold_congr (atomText : α → String) {t t' : Bracketing (Value α)}
    (h : t.steps = t'.steps) :
    (t.fold .pair).inspect atomText = (t'.fold .pair).inspect atomText := by
  rw [inspect_fold, inspect_fold, fold_tilde_congr _ h]

/-- A value of more than one step says that it is one, and shows the steps alone. -/
theorem display_fold_congr (atomText : α → String) {t t' : Bracketing (Value α)}
    (h : t.steps = t'.steps) :
    (t.fold .pair).display atomText = (t'.fold .pair).display atomText := by
  have hlength := congrArg List.length h
  have hpair (first next : Bracketing (Value α)) : 2 ≤ (pair first next).steps.length := by
    have hfirst := List.length_pos_iff.2 first.steps_ne_nil
    have hnext := List.length_pos_iff.2 next.steps_ne_nil
    show 2 ≤ (first.steps ++ next.steps).length
    rw [List.length_append]
    omega
  cases t with
  | step x =>
    cases t' with
    | step y => rw [List.singleton_inj.1 h]
    | pair first next =>
      have htwo : 2 ≤ 1 := (hpair first next).trans_eq hlength.symm
      omega
  | pair first next =>
    cases t' with
    | step y =>
      have htwo : 2 ≤ 1 := (hpair first next).trans_eq hlength
      omega
    | pair first' next' =>
      exact congrArg (fun shown => "Seq(" ++ shown ++ ")") (inspect_fold_congr atomText h)

end Bracketing

/-! ## §3. Steps in turn -/

/-- The steps match one behind the other, from the first place to the last. -/
inductive MatchInTurn (answers : σ → Nat → Outcome β → Prop) :
    Nat → List σ → List (Success β) → Nat → Prop where
  | nil (place : Nat) : MatchInTurn answers place [] [] place
  | cons {x : σ} {rest : List σ} {success : Success β} {matched : List (Success β)}
      {place stop : Nat} :
      answers x place (.success success) → MatchInTurn answers success.stop rest matched stop →
      MatchInTurn answers place (x :: rest) (success :: matched) stop

/-- One of the steps fails, and those in front of it match one behind the other. -/
inductive FailInTurn (answers : σ → Nat → Outcome β → Prop) : Nat → List σ → Failure → Prop where
  | here {x : σ} {rest : List σ} {place : Nat} {failure : Failure} :
      answers x place (.failure failure) → FailInTurn answers place (x :: rest) failure
  | behind {x : σ} {rest : List σ} {success : Success β} {place : Nat} {failure : Failure} :
      answers x place (.success success) → FailInTurn answers success.stop rest failure →
      FailInTurn answers place (x :: rest) failure

section InTurn

variable {answers : σ → Nat → Outcome β → Prop} {answers' : τ → Nat → Outcome β → Prop}
  {xs ys : List σ} {zs : List τ} {matched behind : List (Success β)} {place middle stop : Nat}
  {failure : Failure}

theorem MatchInTurn.length_eq (h : MatchInTurn answers place xs matched stop) :
    matched.length = xs.length := by
  induction h with
  | nil place => rfl
  | cons _ _ ih => exact congrArg (· + 1) ih

theorem MatchInTurn.append (h : MatchInTurn answers place xs matched middle)
    (h' : MatchInTurn answers middle ys behind stop) :
    MatchInTurn answers place (xs ++ ys) (matched ++ behind) stop := by
  induction h with
  | nil place => exact h'
  | cons hmatch _ ih => exact .cons hmatch (ih h')

theorem MatchInTurn.exists_of_append
    (h : MatchInTurn answers place (xs ++ ys) (matched ++ behind) stop)
    (hlength : matched.length = xs.length) :
    ∃ middle, MatchInTurn answers place xs matched middle ∧
      MatchInTurn answers middle ys behind stop := by
  induction xs generalizing place matched with
  | nil =>
    obtain rfl := List.length_eq_zero_iff.1 hlength
    exact ⟨place, .nil place, h⟩
  | cons x xs ih =>
    cases matched with
    | nil => cases hlength
    | cons success matched =>
      cases h with
      | cons hmatch hrest =>
        obtain ⟨middle, hfront, hback⟩ := ih hrest (Nat.succ.inj hlength)
        exact ⟨middle, .cons hmatch hfront, hback⟩

theorem failInTurn_append_iff :
    FailInTurn answers place (xs ++ ys) failure ↔
      FailInTurn answers place xs failure ∨
        ∃ matched middle, MatchInTurn answers place xs matched middle ∧
          FailInTurn answers middle ys failure := by
  induction xs generalizing place with
  | nil =>
    constructor
    · intro h
      exact .inr ⟨[], place, .nil place, h⟩
    · rintro (h | ⟨matched, middle, hmatch, h⟩)
      · cases h
      · cases hmatch
        exact h
  | cons x xs ih =>
    constructor
    · intro h
      cases h with
      | here hfails => exact .inl (.here hfails)
      | behind hmatch hrest =>
        rcases ih.1 hrest with hfails | ⟨matched, middle, hfront, hback⟩
        · exact .inl (.behind hmatch hfails)
        · exact .inr ⟨_ :: matched, middle, .cons hmatch hfront, hback⟩
    · rintro (h | ⟨matched, middle, hfront, hback⟩)
      · cases h with
        | here hfails => exact .here hfails
        | behind hmatch hrest => exact .behind hmatch (ih.2 (.inl hrest))
      · cases hfront with
        | cons hmatch hrest => exact .behind hmatch (ih.2 (.inr ⟨_, middle, hrest, hback⟩))

/-- Steps that answer alike match alike. -/
theorem MatchInTurn.of_forall₂ (h : MatchInTurn answers place xs matched stop)
    (halike : List.Forall₂
      (fun x y => ∀ place outcome, answers x place outcome → answers' y place outcome) xs zs) :
    MatchInTurn answers' place zs matched stop := by
  induction h generalizing zs with
  | nil place =>
    cases halike
    exact .nil place
  | cons hmatch _ ih =>
    cases halike with
    | cons hfirst hrest => exact .cons (hfirst _ _ hmatch) (ih hrest)

/-- Matches one behind the other reach from the first place to the last. -/
theorem MatchInTurn.stop_eq (h : MatchInTurn answers place xs matched stop)
    (hindex : ∀ x place success, answers x place (.success success) → success.index = place) :
    stop = place + Text.size (matched.map Success.text).flatten := by
  induction h with
  | nil place => rfl
  | @cons x rest success matched place stop hmatch _ ih =>
    have hsize : success.stop = place + Text.size success.text := by
      rw [← hindex x place success hmatch]
      rfl
    rw [ih, hsize, List.map_cons, List.flatten_cons, Text.size_append, Nat.add_assoc]

end InTurn

/-! ## §4. Sequences -/

namespace Bracketing

/-- What the bracketed matches are together. -/
def together (index : Nat) (matched : Bracketing (Success (Value α))) : Success (Value α) :=
  ⟨(matched.steps.map Success.text).flatten, index, (matched.map Success.value).fold .pair⟩

theorem together_pair (index place : Nat) (first next : Bracketing (Success (Value α))) :
    (pair first next).together index =
      ⟨(first.together index).text ++ (next.together place).text, index,
        .pair (first.together index).value (next.together place).value⟩ := by
  simp [together, steps, map, fold]

section Sequences

variable {rules : ρ → Option (Parser ρ α)} {input : Text} {index stop : Nat}
  {t : Bracketing (Parser ρ α)} {matched : Bracketing (Success (Value α))}
  {success : Success (Value α)} {failure : Failure}

/-- The match of one step is what it is together. -/
theorem together_step {parser : Parser ρ α}
    (h : parser.AnswersAt rules input index (.success success)) :
    (step success).together index = success := by
  have hindex : success.index = index := (Evaluates.isSlice h).1
  rw [← hindex]
  show Success.mk (success.text ++ []) success.index success.value = success
  rw [List.append_nil]

/-- Matches of steps in turn reach together as far as the last of them. -/
theorem stop_together
    (h : MatchInTurn (fun parser => parser.AnswersAt rules input) index t.steps matched.steps
      stop) :
    (matched.together index).stop = stop := by
  rw [h.stop_eq fun parser place success hmatch => (Evaluates.isSlice hmatch).1]
  rfl

/-- **A bracketed sequence succeeds** where its steps match one behind the other, with what they
match together, bracketed as the sequence is. -/
theorem answersAt_together (hshape : matched.shape = t.shape)
    (h : MatchInTurn (fun parser => parser.AnswersAt rules input) index t.steps matched.steps
      stop) :
    (t.fold .sequence).AnswersAt rules input index (.success (matched.together index)) := by
  induction t generalizing index matched stop with
  | step parser =>
    obtain ⟨only, rfl⟩ := exists_of_shape_step hshape
    cases h with
    | cons hmatch _ =>
      rw [together_step hmatch]
      exact hmatch
  | pair first next ihfirst ihnext =>
    obtain ⟨u, v, rfl, hu, hv⟩ := exists_of_shape_pair hshape
    obtain ⟨middle, hfront, hback⟩ := MatchInTurn.exists_of_append h (length_steps_of_shape hu)
    have hmiddle := stop_together hfront
    have htext := together_pair index middle u v
    refine answersAt_sequence_success_iff.2
      ⟨u.together index, v.together middle, ihfirst hu hfront, ?_, htext, ?_⟩
    · rw [hmiddle]
      exact ihnext hv hback
    · rw [stop_together h, stop_together hback]

/-- There is no other way for it to succeed. -/
theorem exists_of_answersAt
    (h : (t.fold .sequence).AnswersAt rules input index (.success success)) :
    ∃ matched : Bracketing (Success (Value α)), matched.shape = t.shape ∧
      success = matched.together index ∧
      MatchInTurn (fun parser => parser.AnswersAt rules input) index t.steps matched.steps
        success.stop := by
  induction t generalizing index success with
  | step parser => exact ⟨step success, rfl, (together_step h).symm, .cons h (.nil _)⟩
  | pair first next ihfirst ihnext =>
    obtain ⟨front, back, hfront, hback, hsuccess, hstop⟩ := answersAt_sequence_success_iff.1 h
    obtain ⟨u, hu, rfl, huturn⟩ := ihfirst hfront
    obtain ⟨v, hv, rfl, hvturn⟩ := ihnext hback
    refine ⟨pair u v, ?_, hsuccess.trans (together_pair index _ u v).symm, ?_⟩
    · show pair u.shape v.shape = pair first.shape next.shape
      rw [hu, hv]
    · rw [hstop]
      exact huturn.append hvturn

/-- **A bracketed sequence fails** as the first of its steps that fails, which is run where the one
before it stopped. -/
theorem answersAt_failure_iff :
    (t.fold .sequence).AnswersAt rules input index (.failure failure) ↔
      FailInTurn (fun parser => parser.AnswersAt rules input) index t.steps failure := by
  induction t generalizing index with
  | step parser =>
    constructor
    · exact .here
    · intro h
      cases h with
      | here hfails => exact hfails
      | behind _ hrest => cases hrest
  | pair first next ihfirst ihnext =>
    show (Parser.sequence _ _).AnswersAt _ _ _ _ ↔ FailInTurn _ _ (first.steps ++ next.steps) _
    rw [answersAt_sequence_failure_iff, failInTurn_append_iff, ihfirst]
    refine or_congr_right ?_
    constructor
    · rintro ⟨front, hfront, hback⟩
      obtain ⟨u, _, _, hturn⟩ := exists_of_answersAt hfront
      exact ⟨u.steps, front.stop, hturn, ihnext.1 hback⟩
    · rintro ⟨matched, middle, hturn, hback⟩
      -- The matches of the first steps are bracketed as these steps are.
      obtain ⟨u, hu, rfl⟩ := first.exists_of_length hturn.length_eq
      refine ⟨u.together index, answersAt_together hu hturn, ?_⟩
      rw [stop_together hturn]
      exact ihnext.2 hback

end Sequences

end Bracketing

end Backtrack
