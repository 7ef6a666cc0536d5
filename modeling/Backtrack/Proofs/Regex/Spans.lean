import Backtrack.Proofs.Regex.Acceptance
import Backtrack.Proofs.Regex.Recompiled
import Backtrack.Proofs.Regex.Tails

/-! # The texts that an expression can match

    The meaning of an expression in the middle of a text: which texts it can
    match between what is in front and what is behind. Here assertions have
    their meaning, too, and what is repeated may be empty. Which of the
    texts is preferred is left open.

    The code of an expression leads from its first address to the address
    behind it along exactly these texts (`Node.codes`). So the program
    accepts them and no others, and what is found at a place, by the
    anchored match or by the search, is one of them.

    * `accepts_program_iff`: the program of an expression.
    * `Pattern.branches_agree`: the two ways in which a pattern looks for a
      match. -/

namespace Backtrack

namespace Regex

/-! ## §1. Spans -/

/-- Which texts can be matched between a text in front of them and one behind them. -/
abbrev Spans : Type :=
  (front text behind : Text) → Prop

namespace Spans

/-- The empty text. -/
def empty : Spans := fun _ text _ => text = []

/-- One text behind another. -/
def andThen (first second : Spans) : Spans := fun front text behind =>
  ∃ before after, text = before ++ after ∧ first front before (after ++ behind) ∧
    second (front ++ before) after behind

/-- So many texts one behind the other. -/
def times (spans : Spans) : Nat → Spans
  | 0 => empty
  | n + 1 => spans.andThen (spans.times n)

/-- Texts one behind the other, in one of the numbers that are allowed. -/
def repeated (spans : Spans) (allowed : Nat → Prop) : Spans := fun front text behind =>
  ∃ n, allowed n ∧ spans.times n front text behind

section Composition

variable {first second third spans : Spans} {m n : Nat}

theorem empty_andThen : empty.andThen spans = spans := by
  funext front text behind
  simp [andThen, empty]

theorem andThen_assoc :
    (first.andThen second).andThen third = first.andThen (second.andThen third) := by
  funext front text behind
  apply propext
  constructor
  · rintro ⟨_, c, rfl, ⟨a, b, rfl, ha, hb⟩, hc⟩
    refine ⟨a, b ++ c, List.append_assoc .., ?_, b, c, rfl, hb, ?_⟩
    · rwa [List.append_assoc]
    · rwa [List.append_assoc]
  · rintro ⟨a, _, rfl, ha, b, c, rfl, hb, hc⟩
    refine ⟨a ++ b, c, (List.append_assoc ..).symm, ⟨a, b, rfl, ?_, hb⟩, ?_⟩
    · rwa [← List.append_assoc]
    · rwa [← List.append_assoc]

theorem times_add : spans.times (m + n) = (spans.times m).andThen (spans.times n) := by
  induction m with
  | zero => rw [Nat.zero_add, times, empty_andThen]
  | succ m ih => rw [Nat.succ_add, times, times, ih, andThen_assoc]

/-- So many texts and then some more. -/
theorem times_andThen_repeated (allowed : Nat → Prop) :
    (spans.times m).andThen (spans.repeated allowed) =
      spans.repeated fun n => m ≤ n ∧ allowed (n - m) := by
  funext front text behind
  apply propext
  constructor
  · rintro ⟨before, after, rfl, hbefore, n, hn, hafter⟩
    refine ⟨m + n, ⟨Nat.le_add_right m n, by rwa [Nat.add_sub_cancel_left]⟩, ?_⟩
    rw [times_add]
    exact ⟨before, after, rfl, hbefore, hafter⟩
  · rintro ⟨k, ⟨hle, hallowed⟩, htimes⟩
    obtain ⟨n, rfl⟩ := Nat.exists_eq_add_of_le hle
    rw [Nat.add_sub_cancel_left] at hallowed
    rw [times_add] at htimes
    obtain ⟨before, after, rfl, hbefore, hafter⟩ := htimes
    exact ⟨before, after, rfl, hbefore, n, hallowed, hafter⟩

end Composition

end Spans

/-- The texts that an expression can match. -/
def Node.spans : Node → Spans
  | empty => .empty
  | literal word => fun _ text _ => text = word
  | set chars => fun _ text _ => ∃ c, text = [c] ∧ chars.contains c = true
  | assertion condition => fun front text behind =>
    text = [] ∧ condition.holds front.getLast? behind.head? = true
  | group _ body => body.spans
  | concat first second => first.spans.andThen second.spans
  | alt first second => fun front text behind =>
    first.spans front text behind ∨ second.spans front text behind
  | repetition _ least limit body =>
    body.spans.repeated fun n => least ≤ n ∧ ∀ most ∈ limit, n ≤ max least most

/-! ## §2. Ways from address to address -/

/-- What is accepted from the first address is one of the spans and then what is accepted from the
second, and the other way round. -/
structure Ways (program : Array Instruction) (start : Nat) (spans : Spans) (leave : Nat) : Prop
    where
  split : ∀ {steps : Nat} {front text behind : Text},
    Accepts program steps front text behind start →
      ∃ before after, text = before ++ after ∧ spans front before (after ++ behind) ∧
        Accepts program steps (front ++ before) after behind leave
  join : ∀ {steps : Nat} {front before after behind : Text},
    spans front before (after ++ behind) →
      Accepts program steps (front ++ before) after behind leave →
        ∃ steps, Accepts program steps front (before ++ after) behind start

namespace Ways

variable {program : Array Instruction} {start middle leave go again address : Nat}
  {spans first second : Spans} {greedy : Bool} {copies size : Nat}

theorem refl : Ways program start .empty start where
  split {steps front text behind} h := ⟨[], text, rfl, rfl, by rwa [List.append_nil]⟩
  join {steps front before after behind} hspans h := by
    obtain rfl : before = [] := hspans
    rw [List.append_nil] at h
    exact ⟨steps, h⟩

theorem trans (h₁ : Ways program start first middle) (h₂ : Ways program middle second leave) :
    Ways program start (first.andThen second) leave where
  split h := by
    obtain ⟨a, _, rfl, ha, h⟩ := h₁.split h
    obtain ⟨b, c, rfl, hb, h⟩ := h₂.split h
    refine ⟨a ++ b, c, (List.append_assoc ..).symm, ⟨a, b, rfl, ?_, hb⟩, ?_⟩
    · rwa [← List.append_assoc]
    · rwa [← List.append_assoc]
  join {steps front before after behind} hspans h := by
    obtain ⟨a, b, rfl, ha, hb⟩ := hspans
    rw [← List.append_assoc] at h
    obtain ⟨steps, h⟩ := h₂.join hb h
    rw [← List.append_assoc] at ha
    rw [List.append_assoc]
    exact h₁.join ha h

/-- Where a choice stands, one of two ways is taken. -/
theorem either (hat : program[address]? = some (.choose greedy go again))
    (h₁ : Ways program go first leave) (h₂ : Ways program again second leave) :
    Ways program address (fun front text behind => first front text behind ∨
      second front text behind) leave where
  split h := by
    obtain ⟨fewer, rfl, h | h⟩ := h.of_choose hat
    · obtain ⟨before, after, rfl, hspans, h⟩ := h₁.split h
      exact ⟨before, after, rfl, .inl hspans, h.mono (Nat.le_succ _)⟩
    · obtain ⟨before, after, rfl, hspans, h⟩ := h₂.split h
      exact ⟨before, after, rfl, .inr hspans, h.mono (Nat.le_succ _)⟩
  join hspans h := by
    rcases hspans with hspans | hspans
    · obtain ⟨steps, h⟩ := h₁.join hspans h
      exact ⟨steps + 1, h.choose_go hat⟩
    · obtain ⟨steps, h⟩ := h₂.join hspans h
      exact ⟨steps + 1, h.choose_leave hat⟩

theorem jump (hat : program[address]? = some (.jump leave)) :
    Ways program address .empty leave where
  split {steps front text behind} h := by
    obtain ⟨fewer, later, rfl, hlater, h⟩ := h.of_entries (by simp [hat]) (by simp [hat])
    obtain rfl : later = leave := by simpa [entries, hat] using hlater
    exact ⟨[], text, rfl, rfl, by simpa using h.mono (Nat.le_succ _)⟩
  join {steps front before after behind} hspans h := by
    obtain rfl : before = [] := hspans
    rw [List.append_nil] at h
    exact ⟨steps + 1, .enter (by simp [entries, hat]) h⟩

theorem check {condition : Assertion} (hat : program[address]? = some (.check condition)) :
    Ways program address (Node.assertion condition).spans (address + 1) where
  split {steps front text behind} h := by
    obtain ⟨fewer, later, rfl, hlater, h⟩ := h.of_entries (by simp [hat]) (by simp [hat])
    obtain ⟨hholds, rfl⟩ : condition.holds front.getLast? (text ++ behind).head? = true ∧
        later = address + 1 := by
      simpa [entries, hat] using hlater
    exact ⟨[], text, rfl, ⟨rfl, hholds⟩, by simpa using h.mono (Nat.le_succ _)⟩
  join {steps front before after behind} hspans h := by
    obtain ⟨rfl, hholds⟩ := hspans
    rw [List.append_nil] at h
    refine ⟨steps + 1, .enter ?_ h⟩
    simp only [entries, hat, List.nil_append, if_pos hholds, List.mem_singleton]

theorem take {chars : CharSet} (hat : program[address]? = some (.take chars)) :
    Ways program address (Node.set chars).spans (address + 1) where
  split h := by
    obtain ⟨fewer, c, rest, rfl, rfl, hc, h⟩ := h.of_take hat
    exact ⟨[c], rest, rfl, ⟨c, rfl, hc⟩, h.mono (Nat.le_succ _)⟩
  join {steps front before after behind} hspans h := by
    obtain ⟨c, rfl, hc⟩ := hspans
    exact ⟨steps + 1, .take hat hc h⟩

/-- A literal takes its characters one after the other. -/
theorem literal {word : Text} (hcode : CodeAt program start (word.map fun c => .take (.single c))) :
    Ways program start (Node.literal word).spans (start + word.length) := by
  induction word generalizing start with
  | nil => exact refl
  | cons c word ih =>
    have hways := (take hcode.head).trans (ih hcode.tail)
    have hspans : (Node.set (.single c)).spans.andThen (Node.literal word).spans =
        (Node.literal (c :: word)).spans := by
      funext front text behind
      simp [Node.spans, Spans.andThen, contains_single]
    rwa [hspans, show start + 1 + word.length = start + (c :: word).length by
      rw [List.length_cons]; omega] at hways

/-- The copies of a body that have to be matched. -/
theorem times (hbody : ∀ n < copies, Ways program (start + n * size) spans
    (start + n * size + size)) :
    Ways program start (spans.times copies) (start + copies * size) := by
  induction copies generalizing start with
  | zero =>
    rw [Nat.zero_mul]
    exact refl
  | succ copies ih =>
    have hfirst : Ways program start spans (start + size) := by
      simpa using hbody 0 (Nat.succ_pos copies)
    have hothers : Ways program (start + size) (spans.times copies)
        (start + size + copies * size) := by
      refine ih fun n hlt => ?_
      have hcopy := hbody (n + 1) (Nat.succ_lt_succ hlt)
      rwa [show start + (n + 1) * size = start + size + n * size by
        rw [Nat.succ_mul]; omega] at hcopy
    rw [show start + (copies + 1) * size = start + size + copies * size by
      rw [Nat.succ_mul]; omega]
    exact hfirst.trans hothers

/-- The copies of a body that may be matched, each behind the choice to leave. -/
theorem upTo (hleave : start + copies * (size + 1) = leave)
    (hat : ∀ n < copies, program[start + n * (size + 1)]? =
      some (.choose greedy (start + n * (size + 1) + 1) leave))
    (hbody : ∀ n < copies, Ways program (start + n * (size + 1) + 1) spans
      (start + n * (size + 1) + 1 + size)) :
    Ways program start (spans.repeated (· ≤ copies)) leave := by
  induction copies generalizing start with
  | zero =>
    obtain rfl : start = leave := by omega
    have hspans : spans.repeated (· ≤ 0) = .empty := by
      funext front text behind
      simp [Spans.repeated, Spans.times]
    rw [hspans]
    exact refl
  | succ copies ih =>
    have hfirst : Ways program (start + 1) spans (start + 1 + size) := by
      simpa using hbody 0 (Nat.succ_pos copies)
    have hshift (n : Nat) : start + (n + 1) * (size + 1) = start + 1 + size + n * (size + 1) := by
      rw [Nat.succ_mul]
      omega
    have hothers : Ways program (start + 1 + size) (spans.repeated (· ≤ copies)) leave := by
      refine ih (by rw [← hshift, hleave]) (fun n hlt => ?_) fun n hlt => ?_
      · rw [← hshift]
        exact hat (n + 1) (Nat.succ_lt_succ hlt)
      · rw [← hshift]
        exact hbody (n + 1) (Nat.succ_lt_succ hlt)
    have hchoose : program[start]? = some (.choose greedy (start + 1) leave) := by
      simpa using hat 0 (Nat.succ_pos copies)
    have hways := either hchoose (hfirst.trans hothers) refl
    have hspans : (fun front text behind => spans.andThen (spans.repeated (· ≤ copies)) front text
        behind ∨ Spans.empty front text behind) = spans.repeated (· ≤ copies + 1) := by
      funext front text behind
      apply propext
      constructor
      · rintro (⟨before, after, rfl, hbefore, n, hn, hafter⟩ | rfl)
        · exact ⟨n + 1, Nat.succ_le_succ hn, before, after, rfl, hbefore, hafter⟩
        · exact ⟨0, Nat.zero_le _, rfl⟩
      · rintro ⟨n, hn, htimes⟩
        cases n with
        | zero => exact .inr htimes
        | succ n =>
          obtain ⟨before, after, rfl, hbefore, hafter⟩ := htimes
          exact .inl ⟨before, after, rfl, hbefore, n, Nat.le_of_succ_le_succ hn, hafter⟩
    rwa [hspans] at hways

/-- A loop, entered where it chooses between its body and the way out. -/
theorem loop (hbody : Ways program go spans again)
    (hat : program[address]? = some (.choose greedy go leave))
    (hloop : program[again]? = some (.choose greedy go leave)) :
    Ways program address (spans.repeated fun _ => True) leave := by
  constructor
  · intro steps
    -- Each round takes a step at least, also if it takes no character.
    induction steps generalizing address with
    | zero =>
      intro front text behind h
      obtain ⟨fewer, hsteps, _⟩ := h.of_choose hat
      omega
    | succ steps ih =>
      intro front text behind h
      obtain ⟨fewer, hsteps, hnext⟩ := h.of_choose hat
      obtain rfl : steps = fewer := Nat.succ.inj hsteps
      rcases hnext with h | h
      · obtain ⟨a, _, rfl, ha, h⟩ := hbody.split h
        obtain ⟨b, c, rfl, ⟨n, _, hb⟩, h⟩ := ih hloop h
        refine ⟨a ++ b, c, (List.append_assoc ..).symm, ⟨n + 1, trivial, a, b, rfl, ?_, hb⟩, ?_⟩
        · rwa [← List.append_assoc]
        · rw [← List.append_assoc]
          exact h.mono (Nat.le_succ _)
      · exact ⟨[], text, rfl, ⟨0, trivial, rfl⟩, by simpa using h.mono (Nat.le_succ _)⟩
  · intro steps front before after behind hspans h
    obtain ⟨n, _, htimes⟩ := hspans
    induction n generalizing address front before with
    | zero =>
      obtain rfl : before = [] := htimes
      rw [List.append_nil] at h
      exact ⟨steps + 1, h.choose_leave hat⟩
    | succ n ih =>
      obtain ⟨a, b, rfl, ha, hb⟩ := htimes
      rw [← List.append_assoc] at h
      obtain ⟨steps, h⟩ := ih hloop h hb
      rw [← List.append_assoc] at ha
      obtain ⟨steps, h⟩ := hbody.join ha h
      rw [List.append_assoc]
      exact ⟨steps + 1, h.choose_go hat⟩

end Ways

/-! ## §3. Code -/

section Code

variable {program : Array Instruction} {start : Nat}

/-- The code of an expression leads to the address behind it. -/
def Node.Codes (program : Array Instruction) (node : Node) : Prop :=
  ∀ start, CodeAt program start (node.code start) →
    Ways program start node.spans (start + node.span)

/-- A repetition without bound: the last copy of the body is that of the loop. -/
theorem Node.Codes.unbounded {body : Node} (hbody : body.Codes program) (greedy : Bool)
    (min : Nat) : (Node.repetition greedy min none body).Codes program := by
  intro start hcode
  have hspans : (Node.repetition greedy min none body).spans =
      (body.spans.times min).andThen (body.spans.repeated fun _ => True) := by
    rw [Spans.times_andThen_repeated]
    simp [Node.spans]
  rw [hspans]
  cases min with
  | zero =>
    have hloop := CodeAt.right hcode.tail
    rw [Node.length_code] at hloop
    rw [Spans.times, Spans.empty_andThen]
    exact Ways.loop (hbody _ (CodeAt.left hcode.tail)) hcode.head hloop.head
  | succ min =>
    -- The loop goes back to the last of the copies that have to be matched.
    have hchoose := (CodeAt.right hcode).head
    rw [length_copies fun n => Node.length_code body _] at hchoose
    have hcopy (n : Nat) (hlt : n < min + 1) :
        Ways program (start + n * body.span) body.spans (start + n * body.span + body.span) :=
      hbody _ ((CodeAt.left hcode).copy (fun n => Node.length_code body _) hlt)
    have hlast := hcopy min (Nat.lt_succ_self min)
    rw [show start + min * body.span + body.span = start + (min + 1) * body.span by
      rw [Nat.succ_mul]; omega] at hlast
    have hways := (Ways.times hcopy).trans (Ways.loop hlast hchoose hchoose)
    rwa [show start + (min + 1 - 1) * body.span + body.span + 1 =
      start + (Node.repetition greedy (min + 1) none body).span by
        simp only [Node.span, Nat.add_sub_cancel, Nat.succ_mul]; omega] at hways

/-- A bounded repetition: copies that have to be matched, and then copies that may be. -/
theorem Node.Codes.bounded {body : Node} (hbody : body.Codes program) (greedy : Bool)
    (least most : Nat) : (Node.repetition greedy least (some most) body).Codes program := by
  intro start hcode
  simp only [Node.code] at hcode
  have hoptions := CodeAt.right hcode
  rw [length_copies fun n => Node.length_code body _] at hoptions
  have hoption (n : Nat) (hlt : n < most - least) :=
    hoptions.copy (fun n => by rw [List.length_cons, Node.length_code]) hlt
  have hspans : (Node.repetition greedy least (some most) body).spans =
      (body.spans.times least).andThen (body.spans.repeated (· ≤ most - least)) := by
    rw [Spans.times_andThen_repeated, Node.spans]
    congr 1
    funext n
    simp only [Option.mem_def, Option.some.injEq, forall_eq', eq_iff_iff]
    omega
  rw [hspans]
  have hleave : start + (Node.repetition greedy least (some most) body).span =
      start + least * body.span + (most - least) * (body.span + 1) := by
    rw [Node.span, Nat.add_assoc]
  rw [hleave]
  refine Ways.trans (Ways.times fun n hlt => ?_) (Ways.upTo rfl
    (fun n hlt => (hoption n hlt).head) fun n hlt => hbody _ (hoption n hlt).tail)
  exact hbody _ ((CodeAt.left hcode).copy (fun n => Node.length_code body _) hlt)

/-- **The code of an expression leads along the texts that the expression can match.** -/
theorem Node.codes (node : Node) : node.Codes program := by
  induction node with
  | empty => exact fun start _ => .refl
  | literal word => exact fun start hcode => .literal hcode
  | set chars => exact fun start hcode => .take hcode.head
  | assertion condition => exact fun start hcode => .check hcode.head
  | group number body ih => exact ih
  | concat first second ih₁ ih₂ =>
    intro start hcode
    have hcode₂ := CodeAt.right hcode
    rw [Node.length_code] at hcode₂
    rw [Node.span, ← Nat.add_assoc]
    exact (ih₁ start (CodeAt.left hcode)).trans (ih₂ _ hcode₂)
  | alt first second ih₁ ih₂ =>
    intro start hcode
    -- Behind the first alternative stands a jump over the second one.
    have hbehind := CodeAt.right hcode.tail
    rw [Node.length_code] at hbehind
    have h₁ := ih₁ (start + 1) (CodeAt.left hcode.tail)
    have hcode₂ := hbehind.tail
    rw [show start + 1 + first.span + 1 = start + first.span + 2 by omega] at hcode₂
    have h₂ := ih₂ _ hcode₂
    rw [show start + (alt first second).span = start + first.span + 2 + second.span by
      rw [Node.span]; omega]
    have hways := h₁.trans (Ways.jump hbehind.head)
    have hspans : first.spans.andThen .empty = first.spans := by
      funext front text behind
      simp [Spans.andThen, Spans.empty]
    rw [hspans] at hways
    -- A fork is a choice that prefers to go on.
    have hfork : program[start]? = some (.choose true (start + 1) (start + first.span + 2)) :=
      hcode.head
    exact Ways.either hfork hways h₂
  | repetition greedy min max body ih =>
    cases max with
    | none => exact ih.unbounded greedy min
    | some max => exact ih.bounded greedy min max

/-- The program of an expression accepts the texts that the expression can match. -/
theorem accepts_program_iff {node : Node} {front text behind : Text} :
    (∃ steps, Accepts node.program steps front text behind 0) ↔ node.spans front text behind := by
  have hcode : CodeAt node.program 0 (node.code 0 ++ [.stop]) := by
    intro n instruction hat
    simpa [Node.program] using hat
  have hstop := hcode.right.head
  rw [Node.length_code] at hstop
  have hways := node.codes 0 hcode.left
  constructor
  · rintro ⟨steps, h⟩
    obtain ⟨before, after, rfl, hspans, h⟩ := hways.split h
    obtain rfl := (accepts_stop_iff hstop).1 h
    rwa [List.append_nil]
  · intro hspans
    have hend : Accepts node.program 0 (front ++ text) [] behind (0 + node.span) := .stop hstop
    simpa using hways.join hspans hend

end Code

end Regex

/-! ## §4. Patterns -/

section Patterns

variable {source front rest text behind : Text} {regex : Regex} {node : Regex.Node}

/-- A compiled expression has the program of the tree that was read. -/
theorem Regex.exists_node_of_compile? {options : Regex.Options} {limit : Nat}
    (h : Regex.compile? source options limit = some regex) :
    ∃ node, Regex.Node.read? options source = some node ∧ regex.program = node.program := by
  unfold Regex.compile? at h
  cases hnode : Regex.Node.read? options source with
  | none => simp [hnode] at h
  | some node =>
    by_cases hkeeps : node.keeps limit = true
    · have hregex : { source, program := node.program } = regex := by
        simpa [hnode, hkeeps] using h
      exact ⟨node, rfl, by rw [← hregex]⟩
    · simp [hnode, hkeeps] at h

/-- At a place in a text, the anchored match is looked for between its two sides. -/
theorem Pattern.findAt_anchored (pattern : Pattern) {program : Array Regex.Instruction}
    (h : pattern.anchored = some program) (front rest : Text) :
    pattern.findAt (front ++ rest) (Text.size front) =
      (Regex.matchAt program front.getLast? rest).map rest.take := by
  have hrest : (front ++ rest).dropBytes? (Text.size front) = some rest :=
    Text.dropBytes?_eq_some_iff.2 ⟨front, rfl, rfl⟩
  simp only [Pattern.findAt, h, hrest, Text.charBefore?_size]

/-- What is found at a place is a text that the expression can match there. -/
theorem Pattern.spans_of_findAt {pattern : Pattern}
    (hanchored : pattern.anchored = some node.program)
    (h : pattern.findAt (front ++ rest) (Text.size front) = some text) :
    ∃ behind, rest = text ++ behind ∧ node.spans front text behind := by
  rw [pattern.findAt_anchored hanchored] at h
  obtain ⟨n, hmatch, rfl⟩ := Option.map_eq_some_iff.1 h
  obtain ⟨steps, text, behind, rfl, rfl, haccepts⟩ := Regex.exists_accepts_of_matchAt hmatch
  rw [List.take_left]
  exact ⟨behind, rfl, Regex.accepts_program_iff.1 ⟨steps, haccepts⟩⟩

/-- Where the expression can match a text, something is found. -/
theorem Pattern.findAt_ne_none_of_spans {pattern : Pattern}
    (hanchored : pattern.anchored = some node.program) (h : node.spans front text behind) :
    pattern.findAt (front ++ (text ++ behind)) (Text.size front) ≠ none := by
  obtain ⟨steps, haccepts⟩ := Regex.accepts_program_iff.2 h
  rw [pattern.findAt_anchored hanchored, ne_eq, Option.map_eq_none_iff]
  exact Regex.matchAt_ne_none_of_accepts haccepts

/-- **The two ways in which a pattern looks for a match.** A pattern that is made of an expression
which was compiled under the default options matches with the program of this expression, anchored
at the place it is asked for. If it has to search with the expression instead, and keeps what starts
at the place, it finds the same text or nothing as well, in every text and at every offset. What is
found at a place is a text that the expression can match between what is in front of the place and
what is behind the match, where assertions see both, and if nothing is found the expression can
match no text there. -/
theorem Pattern.branches_agree (hcompile : Regex.compile? source = some regex) :
    Pattern.ofRegex regex = ⟨regex, some regex.program⟩ ∧
    (∀ (input : Text) (index : Nat),
      Pattern.findAt ⟨regex, some regex.program⟩ input index =
        Pattern.findAt ⟨regex, none⟩ input index) ∧
    ∃ node, Regex.Node.read? {} source = some node ∧
      ∀ pattern ∈ [Pattern.mk regex (some regex.program), ⟨regex, none⟩], ∀ front rest : Text,
        (∀ text, pattern.findAt (front ++ rest) (Text.size front) = some text →
          ∃ behind, rest = text ++ behind ∧ node.spans front text behind) ∧
        (pattern.findAt (front ++ rest) (Text.size front) = none →
          ∀ text behind, rest = text ++ behind → ¬ node.spans front text behind) := by
  have hagree (input : Text) (index : Nat) :
      Pattern.findAt ⟨regex, some regex.program⟩ input index =
        Pattern.findAt ⟨regex, none⟩ input index := by
    apply Option.ext
    intro text
    rw [Pattern.findAt_anchored_iff rfl, Pattern.findAt_search_iff rfl]
  have hsource : regex.source = source := Regex.source_of_compile? hcompile
  obtain ⟨node, hnode, hprogram⟩ := Regex.exists_node_of_compile? hcompile
  refine ⟨by simp [Pattern.ofRegex, hsource, hcompile], hagree, node, hnode, ?_⟩
  intro pattern hpattern front rest
  -- The search finds what the anchored match finds, so only that has to be looked at.
  have hsame : pattern.findAt (front ++ rest) (Text.size front) =
      Pattern.findAt ⟨regex, some node.program⟩ (front ++ rest) (Text.size front) := by
    rw [← hprogram]
    rcases List.mem_cons.1 hpattern with rfl | hpattern
    · rfl
    · obtain rfl := List.mem_singleton.1 hpattern
      exact (hagree _ _).symm
  rw [hsame]
  refine ⟨fun text hfound => Pattern.spans_of_findAt rfl hfound, ?_⟩
  rintro hnone text behind rfl hspans
  exact Pattern.findAt_ne_none_of_spans rfl hspans hnone

/-- A word boundary in front of a word is found behind a blank and not behind a letter, although
the word alone could be matched at both places. -/
theorem Pattern.branches_agree_word :
    ∃ regex, Regex.compile? "\\bfoo".toList = some regex ∧
      Pattern.findAt ⟨regex, none⟩ "a foo".toList 2 = some "foo".toList ∧
      Pattern.findAt ⟨regex, none⟩ "afoo".toList 1 = none := by
  have hfinds : (Regex.compile? "\\bfoo".toList).map (fun regex =>
      (Pattern.findAt ⟨regex, some regex.program⟩ "a foo".toList 2,
        Pattern.findAt ⟨regex, some regex.program⟩ "afoo".toList 1)) =
      some (some "foo".toList, none) := by
    decide +kernel
  obtain ⟨regex, hcompile, hpair⟩ := Option.map_eq_some_iff.1 hfinds
  obtain ⟨hblank, hletter⟩ := Prod.mk.inj hpair
  have hagree := (Pattern.branches_agree hcompile).2.1
  rw [hagree] at hblank hletter
  exact ⟨regex, hcompile, hblank, hletter⟩

end Patterns

end Backtrack
