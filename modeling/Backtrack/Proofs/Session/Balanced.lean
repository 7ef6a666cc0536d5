import Backtrack.Conversion
import Backtrack.Proofs.Parser.GreedyChain
import Backtrack.Proofs.Session.History
import Backtrack.Proofs.Session.Places

/-! # Parentheses around parentheses

    A pair of parentheses around nothing, or around such a pair, whose value
    is how deep they go: a grammar in which every level is a rule of its own,
    entered one inside the other.

    What it answers depends on two numbers alone, that of the parentheses
    that open and that of those that close right behind them. A level that
    is not closed fails, and the level around it then takes what stands in
    between for nothing and looks for its own end one character further on.

    What it costs depends on what was run before. The levels that have been
    entered once are kept, as a *ladder* in the store, and a run builds
    those that it enters for the first time.

    * `answersAt_balancedBody`: what a level answers.
    * `Session.Climbs.run_ladder`, `Session.Climbs.after_ladder`: what one run
      and what many of them leave behind.
    * `balanced_runs`: both, for whole runs. -/

namespace Backtrack

/-! ## §1. Parentheses in a row -/

namespace Text

/-- How often the text has this character at its beginning, one after the other. -/
def leading (c : Char) (text : Text) : Nat :=
  (text.takeWhile (· == c)).length

/-- How many parentheses the text opens at its beginning. -/
def openings (text : Text) : Nat :=
  text.leading '('

/-- How many parentheses it closes right behind those that it opens. -/
def closings (text : Text) : Nat :=
  leading ')' (text.drop text.openings)

theorem leading_cons_self (c : Char) (text : Text) :
    leading c (c :: text) = leading c text + 1 := by
  simp [leading]

theorem leading_eq_zero_iff {c : Char} {text : Text} :
    leading c text = 0 ↔ text.head? ≠ some c := by
  cases text with
  | nil => simp [leading]
  | cons d text =>
    by_cases h : d = c
    · simp [leading, h]
    · simp [leading, h]

theorem replicate_leading_append (c : Char) (text : Text) :
    List.replicate (leading c text) c ++ text.drop (leading c text) = text := by
  induction text with
  | nil => rfl
  | cons d text ih =>
    by_cases h : d = c
    · obtain rfl := h
      rw [leading_cons_self, List.replicate_succ, List.drop_succ_cons, List.cons_append, ih]
    · have hzero : leading c (d :: text) = 0 := leading_eq_zero_iff.2 (by simpa using h)
      rw [hzero]
      rfl

theorem head?_drop_leading (c : Char) (text : Text) :
    (text.drop (leading c text)).head? ≠ some c := by
  induction text with
  | nil => simp [leading]
  | cons d text ih =>
    by_cases h : d = c
    · obtain rfl := h
      rw [leading_cons_self, List.drop_succ_cons]
      exact ih
    · have hhead : (d :: text).head? ≠ some c := by simpa using h
      rw [leading_eq_zero_iff.2 hhead]
      exact hhead

theorem leading_replicate_append (c : Char) (n : Nat) (text : Text) :
    leading c (List.replicate n c ++ text) = n + leading c text := by
  induction n with
  | zero => rw [List.replicate_zero, List.nil_append, Nat.zero_add]
  | succ n ih =>
    rw [List.replicate_succ, List.cons_append, leading_cons_self, ih]
    omega

theorem size_replicate (n : Nat) (c : Char) : size (List.replicate n c) = n * c.utf8Size := by
  induction n with
  | zero => rw [List.replicate_zero, size_nil, Nat.zero_mul]
  | succ n ih => rw [List.replicate_succ, size_cons, ih, Nat.succ_mul, Nat.add_comm]

/-- Parentheses that open and as many that close take a byte each. -/
theorem size_balanced (n : Nat) :
    size (List.replicate n '(' ++ List.replicate n ')') = 2 * n := by
  have hopens : '('.utf8Size = 1 := rfl
  have hcloses : ')'.utf8Size = 1 := rfl
  rw [size_append, size_replicate, size_replicate, hopens, hcloses]
  omega

/-- Of such a text, all that opens is counted, and all that closes. -/
theorem openings_balanced (n : Nat) :
    openings (List.replicate n '(' ++ List.replicate n ')') = n := by
  have hnone : leading '(' (List.replicate n ')') = 0 := by
    refine leading_eq_zero_iff.2 ?_
    cases n <;> simp [List.replicate_succ]
  unfold openings
  rw [leading_replicate_append, hnone, Nat.add_zero]

theorem closings_balanced (n : Nat) :
    closings (List.replicate n '(' ++ List.replicate n ')') = n := by
  have hdrop : (List.replicate n '(' ++ List.replicate n ')').drop n = List.replicate n ')' :=
    List.drop_left' List.length_replicate
  have hall := leading_replicate_append ')' n []
  rw [List.append_nil] at hall
  unfold closings
  rw [openings_balanced, hdrop, hall]
  rfl

/-- A text is what it opens, what it closes right behind, and something else. -/
theorem exists_tail (text : Text) :
    ∃ tail, text = List.replicate text.openings '(' ++ (List.replicate text.closings ')' ++ tail) ∧
      tail.head? ≠ some ')' ∧ (text.closings = 0 → tail.head? ≠ some '(') := by
  refine ⟨(text.drop text.openings).drop text.closings, ?_, head?_drop_leading _ _, ?_⟩
  · unfold closings
    rw [replicate_leading_append]
    exact (replicate_leading_append '(' text).symm
  · intro hzero
    rw [hzero, List.drop_zero]
    exact head?_drop_leading '(' text

end Text

/-! ## §2. Levels -/

variable {ρ : Type}

/-- A pair of parentheses around what may stand there, with the number of its levels. -/
def balancedBody (inner : ρ) : Parser ρ Scalar :=
  .mapped (.sequence (.sequence (.literal ['(']) (.option (.deferred inner))) (.literal [')']))
    Conversion.depth.apply

/-- Parentheses around parentheses. -/
def balanced : Grammar Unit Scalar where
  rules := [((), balancedBody (.rule ()))]
  root := balancedBody (.rule ())

/-- What so many parentheses come to that open at a place, with so many that close behind them. -/
def balancedOutcome (place opened closed : Nat) : Outcome (Value Scalar) :=
  if opened = 0 then .failure (.expectedText ['('] place)
  else if opened ≤ closed then
    .success ⟨List.replicate opened '(' ++ List.replicate opened ')', place, .atom (.whole opened)⟩
  else if opened = closed + 1 then .failure (.expectedText [')'] (place + 2 * opened - 1))
  else .failure (.expectedText [')'] (place + 1))

section Outcomes

variable {place opened closed : Nat}

theorem balancedOutcome_zero :
    balancedOutcome place 0 closed = .failure (.expectedText ['('] place) :=
  rfl

theorem balancedOutcome_of_le (hpos : 1 ≤ opened) (hle : opened ≤ closed) :
    balancedOutcome place opened closed =
      .success ⟨List.replicate opened '(' ++ List.replicate opened ')', place,
        .atom (.whole opened)⟩ := by
  unfold balancedOutcome
  rw [if_neg (by omega), if_pos hle]

theorem balancedOutcome_succ :
    balancedOutcome place (closed + 1) closed =
      .failure (.expectedText [')'] (place + 2 * closed + 1)) := by
  unfold balancedOutcome
  rw [if_neg (by omega), if_neg (by omega), if_pos rfl]
  rfl

theorem balancedOutcome_of_lt (hlt : closed + 1 < opened) :
    balancedOutcome place opened closed = .failure (.expectedText [')'] (place + 1)) := by
  unfold balancedOutcome
  rw [if_neg (by omega), if_neg (by omega), if_neg (by omega)]

end Outcomes

section Levels

variable {rules : Unit → Option (Parser Unit Scalar)} {input text : Text} {place : Nat}

/-- A character is matched where it stands. -/
theorem matchLiteral_singleton (h : input.dropBytes? place = some text) (c : Char) :
    (matchLiteral input [c] place : Outcome (Value Scalar)) =
      if text.head? = some c then .success ⟨[c], place, .text [c]⟩
      else .failure (.expectedText [c] place) := by
  unfold matchLiteral
  rw [h, Option.bind_some]
  cases text with
  | nil => rfl
  | cons d text =>
    by_cases hd : c = d
    · obtain rfl := hd
      simp [Text.after?]
    · simp [Text.after?, hd, Ne.symm hd]

/-- Behind what opens a level is the next place. -/
theorem dropBytes?_of_opened (h : input.dropBytes? place = some ('(' :: text)) :
    input.dropBytes? (place + 1) = some text :=
  @Text.dropBytes?_add_size input ['('] text place h

/-- What opens a level, and what may stand in it. -/
def balancedFront : Parser Unit Scalar :=
  .sequence (.literal ['(']) (.option (.deferred ()))

/-- Where nothing opens, a level fails. -/
theorem answersAt_balancedBody_of_not_opened (h : input.dropBytes? place = some text)
    (hnot : text.head? ≠ some '(') :
    (balancedBody ()).AnswersAt rules input place (.failure (.expectedText ['('] place)) := by
  have hliteral : (Parser.literal ['(']).AnswersAt rules input place
      (.failure (.expectedText ['('] place)) := by
    refine evaluates_literal_iff.2 ?_
    rw [matchLiteral_singleton h, if_neg hnot]
  have hfront : balancedFront.AnswersAt rules input place (.failure (.expectedText ['('] place)) :=
    answersAt_sequence_failure_iff.2 (.inl hliteral)
  have hbody : (Parser.sequence balancedFront (.literal [')'])).AnswersAt rules input place
      (.failure (.expectedText ['('] place)) := answersAt_sequence_failure_iff.2 (.inl hfront)
  exact evaluates_mapped_iff.2 ⟨_, hbody, rfl⟩

/-- A match inside of a level with what opens it. -/
def openedAt (place : Nat) (back : Success (Value Scalar)) : Success (Value Scalar) :=
  ⟨'(' :: back.text, place, .pair (.text ['(']) back.value⟩

/-- Behind what opens stands what is matched inside. -/
theorem answersAt_balancedFront (h : input.dropBytes? place = some ('(' :: text))
    {back : Success (Value Scalar)}
    (hback : (Parser.option (.deferred ())).AnswersAt rules input (place + 1) (.success back)) :
    balancedFront.AnswersAt rules input place (.success (openedAt place back)) ∧
      (openedAt place back).stop = back.stop := by
  have hliteral : (Parser.literal ['(']).AnswersAt rules input place
      (.success ⟨['('], place, .text ['(']⟩) := by
    refine evaluates_literal_iff.2 ?_
    rw [matchLiteral_singleton h, List.head?_cons, if_pos rfl]
  have hstop : (openedAt place back).stop = back.stop := by
    have hindex : back.index = place + 1 := (Evaluates.isSlice hback).1
    show place + (1 + Text.size back.text) = back.index + Text.size back.text
    omega
  exact ⟨answersAt_sequence_success_iff.2 ⟨_, back, hliteral, hback, rfl, hstop⟩, hstop⟩

/-- A level is closed by what stands behind its front, or fails there. -/
theorem answersAt_balancedBody_of_front {front : Success (Value Scalar)}
    (hfront : balancedFront.AnswersAt rules input place (.success front))
    (hclose : input.dropBytes? front.stop = some text) :
    (balancedBody ()).AnswersAt rules input place
      (if text.head? = some ')' then
        .success ⟨front.text ++ [')'], place, .atom (.whole (Conversion.depthOf front.value))⟩
      else .failure (.expectedText [')'] front.stop)) := by
  have hliteral : (Parser.literal [')']).AnswersAt rules input front.stop
      (matchLiteral input [')'] front.stop) := evaluates_literal_iff.2 rfl
  rw [matchLiteral_singleton hclose] at hliteral
  by_cases hhead : text.head? = some ')'
  · rw [if_pos hhead] at hliteral ⊢
    have hindex : front.index = place := (Evaluates.isSlice hfront).1
    have hbody : (Parser.sequence balancedFront (.literal [')'])).AnswersAt rules input place
        (.success ⟨front.text ++ [')'], place, .pair front.value (.text [')'])⟩) := by
      refine answersAt_sequence_success_iff.2 ⟨front, _, hfront, hliteral, rfl, ?_⟩
      show place + Text.size (front.text ++ [')']) = front.index + Text.size front.text + 1
      rw [Text.size_append, hindex]
      exact (Nat.add_assoc _ _ _).symm
    exact evaluates_mapped_iff.2 ⟨_, hbody, rfl⟩
  · rw [if_neg hhead] at hliteral ⊢
    have hbody : (Parser.sequence balancedFront (.literal [')'])).AnswersAt rules input place
        (.failure (.expectedText [')'] front.stop)) :=
      answersAt_sequence_failure_iff.2 (.inr ⟨front, hfront, hliteral⟩)
    exact evaluates_mapped_iff.2 ⟨_, hbody, rfl⟩

variable (hrule : rules () = some (balancedBody ()))
include hrule

/-- A level around one that matches is to be closed behind that. -/
theorem answersAt_balancedBody_of_success (h : input.dropBytes? place = some ('(' :: text))
    {inner : Success (Value Scalar)} {rest : Text} {stop : Nat}
    (hinner : (balancedBody ()).AnswersAt rules input (place + 1) (.success inner))
    (hstop : inner.stop = stop) (hclose : input.dropBytes? stop = some rest) :
    (balancedBody ()).AnswersAt rules input place
      (if rest.head? = some ')' then
        .success ⟨'(' :: inner.text ++ [')'], place,
          .atom (.whole (Conversion.depthOf (.pair (.text ['(']) (.some inner.value))))⟩
      else .failure (.expectedText [')'] stop)) := by
  have hback : (Parser.option (.deferred ())).AnswersAt rules input (place + 1)
      (.success (inner.map .some)) :=
    evaluates_option_iff.2 ⟨_, evaluates_deferred_iff.2 ⟨_, hrule, hinner⟩, rfl⟩
  obtain ⟨hfront, hbehind⟩ := answersAt_balancedFront h hback
  have hbehind : (openedAt place (inner.map .some)).stop = inner.stop := hbehind
  rw [← hstop, ← hbehind] at hclose ⊢
  exact answersAt_balancedBody_of_front hfront hclose

/-- A level around one that fails is to be closed at once. -/
theorem answersAt_balancedBody_of_failure (h : input.dropBytes? place = some ('(' :: text))
    {failure : Failure}
    (hinner : (balancedBody ()).AnswersAt rules input (place + 1) (.failure failure)) :
    (balancedBody ()).AnswersAt rules input place
      (if text.head? = some ')' then .success ⟨['(', ')'], place, .atom (.whole 1)⟩
      else .failure (.expectedText [')'] (place + 1))) := by
  have hnext := dropBytes?_of_opened h
  have hboundary : input.isBoundary (place + 1) = true := by
    unfold Text.isBoundary
    rw [hnext]
    rfl
  have hback : (Parser.option (.deferred ())).AnswersAt rules input (place + 1)
      (.success (.empty (place + 1) .none)) := by
    refine evaluates_option_iff.2 ⟨_, evaluates_deferred_iff.2 ⟨_, hrule, hinner⟩, ?_⟩
    unfold orNothing
    rw [hboundary]
    rfl
  obtain ⟨hfront, hstop⟩ := answersAt_balancedFront h hback
  have hstop : (openedAt place (.empty (place + 1) .none)).stop = place + 1 := hstop
  rw [← hstop] at hnext ⊢
  exact answersAt_balancedBody_of_front hfront hnext

/-- Where all that opens inside of a level is closed, it is to be closed behind that. -/
theorem answersAt_balancedBody_of_le {opened more : Nat} {tail : Text}
    (h : input.dropBytes? place = some ('(' :: (List.replicate opened '(' ++
      (List.replicate (opened + more) ')' ++ tail))))
    (hinner : (balancedBody ()).AnswersAt rules input (place + 1)
      (balancedOutcome (place + 1) opened (opened + more))) :
    (balancedBody ()).AnswersAt rules input place
      (if (List.replicate more ')' ++ tail).head? = some ')' then
        .success ⟨List.replicate (opened + 1) '(' ++ List.replicate (opened + 1) ')', place,
          .atom (.whole (opened + 1))⟩
      else .failure (.expectedText [')'] (place + 2 * opened + 1))) := by
  by_cases hnone : opened = 0
  · subst hnone
    rw [Nat.zero_add, List.replicate_zero, List.nil_append] at h
    exact answersAt_balancedBody_of_failure hrule h hinner
  have hpos : 1 ≤ opened := Nat.one_le_iff_ne_zero.2 hnone
  rw [balancedOutcome_of_le hpos (Nat.le_add_right opened more)] at hinner
  have hstop : place + 1 + Text.size (List.replicate opened '(' ++ List.replicate opened ')') =
      place + 2 * opened + 1 := by
    rw [Text.size_balanced]
    omega
  have hclose : input.dropBytes? (place + 2 * opened + 1) =
      some (List.replicate more ')' ++ tail) := by
    rw [← hstop]
    apply Text.dropBytes?_add_size
    rw [dropBytes?_of_opened h]
    simp only [List.replicate_add, List.append_assoc]
  have hlevel := answersAt_balancedBody_of_success hrule h hinner hstop hclose
  have htext : '(' :: (List.replicate opened '(' ++ List.replicate opened ')') ++ [')'] =
      List.replicate (opened + 1) '(' ++ List.replicate (opened + 1) ')' := by
    rw [List.replicate_succ, List.replicate_succ']
    simp
  rw [htext] at hlevel
  exact hlevel

/-- **What a level answers**, from what opens where it stands and what closes behind that. -/
theorem answersAt_balancedBody {opened closed : Nat} {tail : Text}
    (h : input.dropBytes? place =
      some (List.replicate opened '(' ++ (List.replicate closed ')' ++ tail)))
    (htail : tail.head? ≠ some ')') (hnext : closed = 0 → tail.head? ≠ some '(') :
    (balancedBody ()).AnswersAt rules input place (balancedOutcome place opened closed) := by
  -- The level inside opens one less, one character further on.
  induction opened generalizing place with
  | zero =>
    refine answersAt_balancedBody_of_not_opened h ?_
    cases closed with
    | zero => exact hnext rfl
    | succ closed => simp [List.replicate_succ]
  | succ opened ih =>
    have hinside : input.dropBytes? (place + 1) =
        some (List.replicate opened '(' ++ (List.replicate closed ')' ++ tail)) :=
      dropBytes?_of_opened h
    have hinner := ih hinside
    by_cases hclosed : closed < opened
    · -- The level inside is not closed, nor is there an end where it stands.
      obtain ⟨failure, hfailure⟩ : ∃ failure,
          balancedOutcome (place + 1) opened closed = .failure failure := by
        rcases Nat.lt_or_eq_of_le (Nat.succ_le_of_lt hclosed) with hlt | rfl
        · exact ⟨_, balancedOutcome_of_lt hlt⟩
        · exact ⟨_, balancedOutcome_succ⟩
      rw [hfailure] at hinner
      have hlevel := answersAt_balancedBody_of_failure hrule h hinner
      obtain ⟨n, rfl⟩ := Nat.exists_eq_add_of_lt (Nat.zero_lt_of_lt hclosed)
      rw [if_neg (by simp [List.replicate_succ])] at hlevel
      rw [balancedOutcome_of_lt (by omega)]
      exact hlevel
    obtain ⟨more, rfl⟩ := Nat.exists_eq_add_of_le (Nat.le_of_not_lt hclosed)
    have hlevel := answersAt_balancedBody_of_le hrule h hinner
    cases more with
    | zero =>
      rw [if_neg (by simpa using htail)] at hlevel
      show (balancedBody ()).AnswersAt rules input place (balancedOutcome place (opened + 1) opened)
      rw [balancedOutcome_succ]
      exact hlevel
    | succ more =>
      rw [if_pos (by simp [List.replicate_succ])] at hlevel
      rw [balancedOutcome_of_le (by omega) (by omega)]
      exact hlevel

end Levels

/-! ## §3. Outcomes of runs -/

/-- The session that they start with. -/
def balancedSession : Session Unit Scalar where
  rules := balanced.rules
  shared := []
  root := balancedBody ⟨0, ()⟩

theorem balanced_start : balanced.start = .ok (balancedSession, ⟨1, [], []⟩) :=
  rfl

section Outcomes

variable {session : Session Unit Scalar} {store : Store Unit Scalar} {input text : Text}
  {place : Nat}

/-- A run answers what a level does. -/
theorem Grammar.Reaches.run_balanced (h : balanced.Reaches session store)
    (hplace : input.dropBytes? place = some text) :
    (session.run store input place).1 =
      .ok (balancedOutcome place text.openings text.closings) := by
  obtain ⟨first, hstart⟩ := h.exists_start
  have hboth : (balancedSession, ⟨1, [], []⟩) = (session, first) :=
    Except.ok.inj (balanced_start.symm.trans hstart)
  obtain ⟨rfl, _⟩ := Prod.mk.inj hboth
  obtain ⟨tail, htext, htail, hnext⟩ := text.exists_tail
  rw [h.run_eq_ok_iff]
  refine answersAt_balancedBody rfl ?_ htail hnext
  rw [← htext]
  exact hplace

/-- With an anchor around it, a run answers what the anchor makes of that. -/
theorem Grammar.Reaches.run_balanced_anchored
    (h : (balanced.around .anchored).Reaches session store)
    (hplace : input.dropBytes? place = some text) :
    (session.run store input place).1 =
      .ok (atEnd input (balancedOutcome place text.openings text.closings)) := by
  have hreach : balanced.Reaches balancedSession ⟨1, [], []⟩ := .start rfl
  exact (hreach.run_anchored_iff h).2 ⟨_, hreach.run_balanced hplace, rfl⟩

end Outcomes

/-! ## §4. What runs leave behind -/

/-- The levels that have been entered, each with the cell of the next one. -/
def ladder : Nat → List (Nat × BuiltParser Unit Scalar)
  | 0 => []
  | height + 1 => (height, balancedBody ⟨height + 1, ()⟩) :: ladder height

/-- The store with a ladder of this height. -/
def ladderStore (height : Nat) (resolved : List Unit) : Store Unit Scalar :=
  ⟨height + 1, ladder height, resolved⟩

/-- How many parentheses the input opens at a place. -/
def openingsAt (input : Text) (place : Nat) : Nat :=
  ((input.dropBytes? place).map Text.openings).getD 0

section Ladders

variable {session : Session Unit Scalar} {input : Text} {height level place depth : Nat}
  {resolved : List Unit}

theorem lookup_ladder (height level : Nat) :
    (ladder height).lookup level =
      if level < height then some (balancedBody ⟨level + 1, ()⟩) else none := by
  induction height with
  | zero => rfl
  | succ height ih =>
    by_cases h : level = height
    · subst h
      rw [if_pos (Nat.lt_succ_self level)]
      exact List.lookup_cons_self
    · have hbeq : (level == height) = false := by simpa using h
      rw [ladder, List.lookup_cons, hbeq, ih]
      by_cases hlt : level < height
      · rw [if_pos hlt, if_pos (by omega)]
      · rw [if_neg hlt, if_neg (by omega)]

/-- What is no place of the input, or does not open there, is not matched. -/
theorem matchLiteral_of_openingsAt_eq_zero (h : openingsAt input place = 0) :
    (matchLiteral input ['('] place : Outcome (Value Scalar)) =
      .failure (.expectedText ['('] place) := by
  unfold openingsAt at h
  cases hplace : input.dropBytes? place with
  | none =>
    unfold matchLiteral
    rw [hplace]
    rfl
  | some text =>
    rw [hplace, Option.map_some, Option.getD_some] at h
    rw [matchLiteral_singleton hplace, if_neg (Text.leading_eq_zero_iff.1 h)]

/-- What opens is matched, and one less opens behind it. -/
theorem matchLiteral_of_openingsAt_eq_succ {opened : Nat}
    (h : openingsAt input place = opened + 1) :
    (matchLiteral input ['('] place : Outcome (Value Scalar)) =
        .success ⟨['('], place, .text ['(']⟩ ∧
      openingsAt input (place + 1) = opened := by
  unfold openingsAt at h
  cases hplace : input.dropBytes? place with
  | none =>
    rw [hplace] at h
    cases h
  | some text =>
    rw [hplace, Option.map_some, Option.getD_some] at h
    have hhead : text.head? = some '(' := by
      by_contra hnot
      have hzero : text.openings = 0 := Text.leading_eq_zero_iff.2 hnot
      omega
    obtain ⟨rest, rfl⟩ : ∃ rest, text = '(' :: rest := List.head?_eq_some_iff.1 hhead
    refine ⟨by rw [matchLiteral_singleton hplace, if_pos hhead], ?_⟩
    unfold openingsAt
    rw [dropBytes?_of_opened hplace, Option.map_some, Option.getD_some]
    unfold Text.openings at h ⊢
    rw [Text.leading_cons_self] at h
    omega

/-- No more opens than the input has bytes. -/
theorem openingsAt_le_size (input : Text) (place : Nat) : openingsAt input place ≤ input.size := by
  unfold openingsAt
  cases hplace : input.dropBytes? place with
  | none => exact Nat.zero_le _
  | some text =>
    obtain ⟨front, rfl, _⟩ := Text.dropBytes?_eq_some_iff.1 hplace
    have hsize := congrArg Text.size (Text.replicate_leading_append '(' text)
    have hopens : '('.utf8Size = 1 := rfl
    rw [Text.size_append, Text.size_replicate, hopens] at hsize
    show Text.leading '(' text ≤ (front ++ text).size
    rw [Text.size_append]
    omega

/-- Steps that leave a store as it is do not count. -/
theorem Run.store_bind_of_still {κ α β γ : Type} {step : Run κ α β} {next : β → Run κ α γ}
    (hstill : ∀ value store, ((next value).run.run store).2 = store) (store : Store κ α) :
    ((step >>= next).run.run store).2 = (step.run.run store).2 := by
  rw [Run.run_bind]
  rcases step.run.run store with ⟨stop | value, after⟩
  · rfl
  · exact hstill value after

/-- Of a level, only what is called inside of it changes the store. -/
theorem Run.store_balancedBody (call : Cell Unit → Nat → Run Unit Scalar (Outcome (Value Scalar)))
    (cell : Cell Unit) (input : Text) (place : Nat) (store : Store Unit Scalar) :
    (((balancedBody cell).parseWith call input place).run.run store).2 =
      match (matchLiteral input ['('] place : Outcome (Value Scalar)) with
      | .success front => ((call cell front.stop).run.run store).2
      | .failure _ => store := by
  unfold balancedBody
  simp only [Parser.parseWith]
  rw [Run.store_bind_of_still fun _ _ => rfl]
  -- What closes the level is only looked for.
  rw [Run.store_bind_of_still fun outcome store => by
    cases outcome with
    | failure failure => rfl
    | success front =>
      simp only [pure_bind]
      cases matchLiteral input [')'] front.stop with
      | failure failure => rfl
      | success back => rfl]
  rw [pure_bind]
  cases matchLiteral input ['('] place with
  | failure failure => rfl
  | success front =>
    show (((call cell front.stop >>= fun outcome => pure (orNothing input front.stop outcome)) >>=
      fun outcome => _).run.run store).2 = _
    rw [Run.store_bind_of_still fun outcome store => by
      cases outcome with
      | failure failure => rfl
      | success back => rfl]
    exact Run.store_bind_of_still (fun _ _ => rfl) store

/-- Resolving a cell of the ladder, or the next one above it, gives the next level. -/
theorem Session.resolve_ladder (hrules : session.rules = balanced.rules)
    (hshared : session.shared = []) (hle : level ≤ height) :
    (session.resolve ⟨level, ()⟩).run.run (ladderStore height resolved) =
      (.ok (balancedBody ⟨level + 1, ()⟩),
        ladderStore (max height (level + 1))
          (List.replicate (level + 1 - height) () ++ resolved)) := by
  rw [Session.resolve_run]
  have hfind : (ladderStore height resolved).find? ⟨level, ()⟩ =
      if level < height then some (balancedBody ⟨level + 1, ()⟩) else none :=
    lookup_ladder height level
  rcases Nat.lt_or_eq_of_le hle with hlt | rfl
  · rw [if_pos hlt] at hfind
    rw [hfind, Nat.max_eq_left hlt, Nat.sub_eq_zero_of_le hlt]
    rfl
  · rw [if_neg (Nat.lt_irrefl level)] at hfind
    rw [hfind, hrules, hshared, Nat.max_eq_right (Nat.le_succ level), Nat.add_sub_cancel_left]
    rfl

/-- **What a level leaves behind.** It enters as many levels above itself as open where it stands,
and those above the ladder are put on top of it. -/
theorem Session.store_ladder (hrules : session.rules = balanced.rules)
    (hshared : session.shared = []) (hle : level ≤ height)
    (hdepth : openingsAt input place ≤ depth) (resolved : List Unit) :
    (((balancedBody ⟨level, ()⟩).parseWith (session.call input depth) input place).run.run
        (ladderStore height resolved)).2 =
      ladderStore (max height (level + openingsAt input place))
        (List.replicate (level + openingsAt input place - height) () ++ resolved) := by
  rw [Run.store_balancedBody]
  -- The next level is one character further on, and opens one less.
  induction hopened : openingsAt input place generalizing level place depth height resolved with
  | zero =>
    rw [matchLiteral_of_openingsAt_eq_zero hopened, Nat.add_zero, Nat.max_eq_left hle,
      Nat.sub_eq_zero_of_le hle]
    rfl
  | succ opened ih =>
    obtain ⟨hliteral, hnext⟩ := matchLiteral_of_openingsAt_eq_succ hopened
    rw [hliteral]
    obtain ⟨depth, rfl⟩ : ∃ depth', depth = depth' + 1 :=
      Nat.exists_eq_succ_of_ne_zero (by omega)
    show ((session.resolve ⟨level, ()⟩ >>= fun parser =>
      parser.parseWith (session.call input depth) input (place + 1)).run.run _).2 = _
    rw [Run.run_bind, Session.resolve_ladder hrules hshared hle]
    simp only
    rw [Run.store_balancedBody, ih (by omega) (by omega) _ hnext, ← List.append_assoc,
      ← List.replicate_add]
    -- One level was resolved here and the others further in, unless the ladder had them already.
    have hheight : max (max height (level + 1)) (level + 1 + opened) =
        max height (level + (opened + 1)) := by omega
    have hcount : level + 1 + opened - max height (level + 1) + (level + 1 - height) =
        level + (opened + 1) - height := by omega
    rw [hheight, hcount]

/-- The session runs the levels from the first one on, and changes the store as that does. -/
structure Session.Climbs (session : Session Unit Scalar) : Prop where
  rules : session.rules = balanced.rules
  shared : session.shared = []
  root : ∀ (call : Cell Unit → Nat → Run Unit Scalar (Outcome (Value Scalar))) input place store,
    ((session.root.parseWith call input place).run.run store).2 =
      (((balancedBody ⟨0, ()⟩).parseWith call input place).run.run store).2

theorem Session.climbs_of_start {first : Store Unit Scalar}
    (h : balanced.start = .ok (session, first)) :
    session.Climbs ∧ first = ladderStore 0 [] := by
  cases h
  exact ⟨⟨rfl, rfl, fun _ _ _ _ => rfl⟩, rfl⟩

theorem Session.climbs_of_start_anchored {first : Store Unit Scalar}
    (h : (balanced.around .anchored).start = .ok (session, first)) :
    session.Climbs ∧ first = ladderStore 0 [] := by
  cases h
  refine ⟨⟨rfl, rfl, fun call input place store => ?_⟩, rfl⟩
  exact Run.store_bind_of_still (fun _ _ => rfl) store

/-- **What a run leaves behind**: a ladder that is high enough for it, and the new levels alone were
resolved. -/
theorem Session.Climbs.run_ladder (h : session.Climbs) (height : Nat) (resolved : List Unit)
    (input : Text) (place : Nat) :
    (session.run (ladderStore height resolved) input place).2 =
      (ladderStore (max height (openingsAt input place))
          (List.replicate (openingsAt input place - height) ()),
        List.replicate (openingsAt input place - height) ()) := by
  -- There is one rule, so that the depth of a run is the number of places.
  have hdepth : openingsAt input place ≤ session.depthFor input := by
    have hle := openingsAt_le_size input place
    unfold Session.depthFor
    rw [h.rules]
    show openingsAt input place ≤ 1 * (input.size + 1)
    omega
  have hafter : ((session.parseAt input place).run.run (ladderStore height [])).2 =
      ladderStore (max height (openingsAt input place))
        (List.replicate (openingsAt input place - height) ()) := by
    have hlevel := Session.store_ladder h.rules h.shared (Nat.zero_le height) hdepth []
    rw [Nat.zero_add, List.append_nil] at hlevel
    exact (h.root _ input place _).trans hlevel
  show (((session.parseAt input place).run.run (ladderStore height [])).2,
    ((session.parseAt input place).run.run (ladderStore height [])).2.resolved.reverse) = _
  rw [hafter]
  show (_, (List.replicate (openingsAt input place - height) ()).reverse) = _
  rw [List.reverse_replicate]

/-- The largest number of parentheses that one of the runs opens where it starts. -/
def mostOpenings (runs : List (Text × Nat)) : Nat :=
  (runs.map fun run => openingsAt run.1 run.2).foldl max 0

/-- **What many runs leave behind**: a ladder that is as high as the highest of them. -/
theorem Session.Climbs.after_ladder (h : session.Climbs) (height : Nat) (resolved : List Unit)
    (runs : List (Text × Nat)) :
    ∃ resolved', session.after (ladderStore height resolved) runs =
      ladderStore ((runs.map fun run => openingsAt run.1 run.2).foldl max height) resolved' := by
  induction runs generalizing height resolved with
  | nil => exact ⟨resolved, rfl⟩
  | cons run rest ih =>
    have hrun := congrArg Prod.fst (h.run_ladder height resolved run.1 run.2)
    have hafter : session.after (ladderStore height resolved) (run :: rest) =
        session.after (session.run (ladderStore height resolved) run.1 run.2).2.1 rest := rfl
    rw [hafter, hrun]
    exact ih _ _

/-- A run resolves as many rules as it opens more than any run before. -/
theorem Session.Climbs.length_resolved (h : session.Climbs) (runs : List (Text × Nat))
    (input : Text) (place : Nat) :
    (session.run (session.after (ladderStore 0 []) runs) input place).2.2.length =
      openingsAt input place - mostOpenings runs := by
  obtain ⟨resolved, hafter⟩ := h.after_ladder 0 [] runs
  rw [hafter, h.run_ladder]
  exact List.length_replicate

end Ladders

/-! ## §5. Whole runs -/

section Whole

variable {opened closed : Nat} {session : Session Unit Scalar} {store : Store Unit Scalar}

/-- Only what opens and is closed as often succeeds. -/
theorem exists_balancedOutcome_success_iff :
    (∃ success, balancedOutcome 0 opened closed = .success success) ↔
      1 ≤ opened ∧ opened ≤ closed := by
  constructor
  · rintro ⟨success, hsuccess⟩
    unfold balancedOutcome at hsuccess
    by_cases hzero : opened = 0
    · rw [if_pos hzero] at hsuccess
      cases hsuccess
    by_cases hle : opened ≤ closed
    · omega
    rw [if_neg hzero, if_neg hle] at hsuccess
    by_cases hsucc : opened = closed + 1
    · rw [if_pos hsucc] at hsuccess
      cases hsuccess
    · rw [if_neg hsucc] at hsuccess
      cases hsuccess
  · rintro ⟨hpos, hle⟩
    exact ⟨_, balancedOutcome_of_le hpos hle⟩

/-- A match is as deep as what opens, with two bytes for each level. -/
theorem eq_of_balancedOutcome_success {success : Success (Value Scalar)}
    (h : balancedOutcome 0 opened closed = .success success) :
    success = ⟨List.replicate opened '(' ++ List.replicate opened ')', 0, .atom (.whole opened)⟩ ∧
      success.stop = 2 * opened := by
  obtain ⟨hpos, hle⟩ := exists_balancedOutcome_success_iff.1 ⟨success, h⟩
  rw [balancedOutcome_of_le hpos hle] at h
  obtain rfl := Outcome.success.inj h
  refine ⟨rfl, ?_⟩
  show 0 + Text.size (List.replicate opened '(' ++ List.replicate opened ')') = 2 * opened
  rw [Text.size_balanced, Nat.zero_add]

/-- From its start on the text is what it is. -/
theorem Text.dropBytes?_start (w : Text) : w.dropBytes? 0 = some w := by
  cases w <;> rfl

section Anchored

variable (h : (balanced.around .anchored).Reaches session store) (w : Text)
include h

/-- Behind a match that does not reach the end the anchored parentheses fail. -/
theorem Grammar.Reaches.run_balanced_trailing (hpos : 1 ≤ w.openings)
    (hle : w.openings ≤ w.closings) (hmore : w.size ≠ 2 * w.openings) :
    ∃ failure, (session.run store w 0).1 = .ok (.failure failure) ∧ failure.kind = .termination ∧
      failure.index = 2 * w.openings := by
  have hreach : balanced.Reaches balancedSession ⟨1, [], []⟩ := .start rfl
  have hrun := hreach.run_balanced w.dropBytes?_start
  obtain ⟨success, hsuccess⟩ := exists_balancedOutcome_success_iff.2 ⟨hpos, hle⟩
  obtain ⟨_, hstop⟩ := eq_of_balancedOutcome_success hsuccess
  rw [hsuccess] at hrun
  have hne : success.stop ≠ w.size := by
    rw [hstop]
    exact hmore.symm
  obtain ⟨found, hfound⟩ := hreach.run_anchored_of_stop_ne h hrun hne
  exact ⟨_, hfound, rfl, hstop⟩

/-- Where the parentheses fail, the anchored ones fail alike. -/
theorem Grammar.Reaches.run_balanced_failure {failure : Failure}
    (hfailure : balancedOutcome 0 w.openings w.closings = .failure failure) :
    (session.run store w 0).1 = .ok (.failure failure) := by
  rw [h.run_balanced_anchored w.dropBytes?_start, hfailure]
  rfl

/-- They accept just the texts in which all that opens is closed, and nothing follows. -/
theorem Grammar.Reaches.exists_run_balanced_anchored_iff :
    (∃ success, (session.run store w 0).1 = .ok (.success success)) ↔
      ∃ n, 1 ≤ n ∧ w = List.replicate n '(' ++ List.replicate n ')' := by
  have hrun := h.run_balanced_anchored w.dropBytes?_start
  constructor
  · rintro ⟨success, hsuccess⟩
    cases houtcome : balancedOutcome 0 w.openings w.closings with
    | failure failure =>
      rw [houtcome, hsuccess] at hrun
      cases Except.ok.inj hrun
    | success inner =>
      obtain ⟨hpos, hle⟩ := exists_balancedOutcome_success_iff.1 ⟨inner, houtcome⟩
      -- Otherwise the anchor would have made a failure of the match.
      have hsize : w.size = 2 * w.openings := by
        by_contra hmore
        obtain ⟨failure, hfails, _⟩ := h.run_balanced_trailing w hpos hle hmore
        rw [hsuccess] at hfails
        cases Except.ok.inj hfails
      refine ⟨w.openings, hpos, ?_⟩
      -- Nothing is left for anything else.
      obtain ⟨tail, htext, _⟩ := w.exists_tail
      have hwhole := congrArg Text.size htext
      have hopens : '('.utf8Size = 1 := rfl
      have hcloses : ')'.utf8Size = 1 := rfl
      rw [hsize, Text.size_append, Text.size_append, Text.size_replicate, Text.size_replicate,
        hopens, hcloses] at hwhole
      have hclosed : w.closings = w.openings := by omega
      have htail : tail.size = 0 := by omega
      rw [hclosed, Text.size_eq_zero_iff.1 htail, List.append_nil] at htext
      exact htext
  · rintro ⟨n, hpos, rfl⟩
    rw [Text.openings_balanced, Text.closings_balanced, balancedOutcome_of_le hpos le_rfl,
      atEnd_of_stop_eq] at hrun
    · exact ⟨_, hrun⟩
    · show 0 + _ = _
      exact Nat.zero_add _

end Anchored

/-- **Parentheses around parentheses.** Whatever has been run before, a run on a text that opens `k`
parentheses and closes `j` right behind them succeeds if there is one at least and all are closed.
It then gives their number and takes two bytes for each. Otherwise it fails to match: at the
beginning where nothing opens, behind what closes where one more is missing, and behind the first
parenthesis where more than one is. With an anchor around it, it accepts what opens some and closes
just as many, and fails behind a match where more follows. Of many runs, each of them resolves as
many rules as it opens more parentheses than all runs before it. -/
theorem balanced_runs :
    (balanced.Starts ∧ (balanced.around .anchored).Starts) ∧
    (∀ session store, balanced.Reaches session store → ∀ w : Text,
      ((∃ success, (session.run store w 0).1 = .ok (.success success)) ↔
        1 ≤ w.openings ∧ w.openings ≤ w.closings) ∧
      (∀ success, (session.run store w 0).1 = .ok (.success success) →
        success.value = .atom (.whole w.openings) ∧ success.index = 0 ∧
          success.size = 2 * w.openings) ∧
      (w.openings = 0 → (session.run store w 0).1 = .ok (.failure (.expectedText ['('] 0))) ∧
      (w.openings = w.closings + 1 → (session.run store w 0).1 =
        .ok (.failure (.expectedText [')'] (2 * w.openings - 1)))) ∧
      (w.closings + 1 < w.openings →
        (session.run store w 0).1 = .ok (.failure (.expectedText [')'] 1)))) ∧
    (∀ session store, (balanced.around .anchored).Reaches session store → ∀ w : Text,
      ((∃ success, (session.run store w 0).1 = .ok (.success success)) ↔
        ∃ n, 1 ≤ n ∧ w = List.replicate n '(' ++ List.replicate n ')') ∧
      (1 ≤ w.openings → w.openings ≤ w.closings → w.size ≠ 2 * w.openings →
        ∃ failure, (session.run store w 0).1 = .ok (.failure failure) ∧
          failure.kind = .termination ∧ failure.index = 2 * w.openings) ∧
      (w.openings = 0 → (session.run store w 0).1 = .ok (.failure (.expectedText ['('] 0))) ∧
      (w.openings = w.closings + 1 → (session.run store w 0).1 =
        .ok (.failure (.expectedText [')'] (2 * w.openings - 1)))) ∧
      (w.closings + 1 < w.openings →
        (session.run store w 0).1 = .ok (.failure (.expectedText [')'] 1)))) ∧
    ∀ session first, (balanced.start = .ok (session, first) ∨
        (balanced.around .anchored).start = .ok (session, first)) →
      ∀ runs input place, (session.run (session.after first runs) input place).2.2.length =
        openingsAt input place - mostOpenings runs := by
  have hsucc (w : Text) (hw : w.openings = w.closings + 1) :
      balancedOutcome 0 w.openings w.closings =
        .failure (.expectedText [')'] (2 * w.openings - 1)) := by
    have hindex : 0 + 2 * w.closings + 1 = 2 * w.openings - 1 := by omega
    rw [← hindex, hw]
    exact balancedOutcome_succ
  refine ⟨⟨⟨_, _, balanced_start⟩, ⟨_, _, rfl⟩⟩, ?_, ?_, ?_⟩
  · intro session store h w
    rw [h.run_balanced w.dropBytes?_start]
    simp only [Except.ok.injEq]
    refine ⟨exists_balancedOutcome_success_iff, fun success hsuccess => ?_, fun hzero => ?_,
      hsucc w, balancedOutcome_of_lt⟩
    · obtain ⟨rfl, _⟩ := eq_of_balancedOutcome_success hsuccess
      exact ⟨rfl, rfl, Text.size_balanced _⟩
    · rw [hzero]
      exact balancedOutcome_zero
  · intro session store h w
    refine ⟨h.exists_run_balanced_anchored_iff w, h.run_balanced_trailing w, fun hzero => ?_,
      fun hw => h.run_balanced_failure w (hsucc w hw),
      fun hlt => h.run_balanced_failure w (balancedOutcome_of_lt hlt)⟩
    apply h.run_balanced_failure w
    rw [hzero]
    exact balancedOutcome_zero
  · rintro session first (hstart | hstart) runs input place
    · obtain ⟨hclimbs, rfl⟩ := Session.climbs_of_start hstart
      exact hclimbs.length_resolved runs input place
    · obtain ⟨hclimbs, rfl⟩ := Session.climbs_of_start_anchored hstart
      exact hclimbs.length_resolved runs input place

end Whole

end Backtrack
