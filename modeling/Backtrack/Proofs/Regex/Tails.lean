import Backtrack.Pattern
import Backtrack.Proofs.Regex.Machine
import Backtrack.Proofs.Text.Cut

/-! # The matches of an expression

    The meaning of an expression without its program: what is left of a text
    behind each match at its start, in the order in which the matches are
    preferred. Expressions are *plain* here, which means that they hold no
    assertions and that what is repeated without bound consumes something.

    * `Node.leads`: the program of a plain expression leads to its matches.
    * `matchAt_program`: the matcher finds the first of them.
    * `findAt_eq_some_iff`: so does a pattern. -/

namespace Backtrack.Regex

/-! ## §1. Matches -/

/-- What is left behind one character of a set. -/
def oneOf (chars : CharSet) : Text → List Text
  | [] => []
  | c :: rest => if chars.contains c then [rest] else []

/-- Going on, or leaving, in the order that a repetition prefers. -/
def prefer {β : Type} (greedy : Bool) (go leave : List β) : List β :=
  if greedy then go ++ leave else leave ++ go

/-- So many matches one behind the other. -/
def times (body : Text → List Text) : Nat → Text → List Text
  | 0, rest => [rest]
  | n + 1, rest => (body rest).flatMap (times body n)

/-- At most so many matches one behind the other. -/
def upTo (greedy : Bool) (body : Text → List Text) : Nat → Text → List Text
  | 0, rest => [rest]
  | n + 1, rest => prefer greedy ((body rest).flatMap (upTo greedy body n)) [rest]

namespace Node

/-- What is left of a text behind the matches of an expression at its start, in order of preference.
Of what consumes something, no more matches than characters are left can follow each other. -/
def tails : Node → Text → List Text
  | empty, rest => [rest]
  | literal text, rest => (Text.after? text rest).toList
  | set chars, rest => oneOf chars rest
  | assertion _, _ => []
  | group _ body, rest => body.tails rest
  | concat first second, rest => (first.tails rest).flatMap second.tails
  | alt first second, rest => first.tails rest ++ second.tails rest
  | repetition greedy min none body, rest =>
    (times body.tails min rest).flatMap fun behind =>
      upTo greedy body.tails behind.length behind
  | repetition greedy min (some max) body, rest =>
    (times body.tails min rest).flatMap (upTo greedy body.tails (max - min))

/-- The expression holds no assertions, and what it repeats without bound consumes something. -/
def plain : Node → Bool
  | empty => true
  | literal _ => true
  | set _ => true
  | assertion _ => false
  | group _ body => body.plain
  | concat first second => first.plain && second.plain
  | alt first second => first.plain && second.plain
  | repetition _ _ max body => body.plain && (max.isSome || body.consumes)

end Node

section Matches

variable {greedy : Bool} {body : Text → List Text} {n least : Nat} {rest behind : Text}

theorem mem_prefer {β : Type} {go leave : List β} {b : β} :
    b ∈ prefer greedy go leave ↔ b ∈ go ∨ b ∈ leave := by
  cases greedy
  · exact List.mem_append.trans or_comm
  · exact List.mem_append

theorem flatMap_prefer {β γ : Type} (go leave : List β) (f : β → List γ) :
    (prefer greedy go leave).flatMap f = prefer greedy (go.flatMap f) (leave.flatMap f) := by
  cases greedy <;> exact List.flatMap_append

theorem length_of_mem_times
    (hbody : ∀ rest, ∀ behind ∈ body rest, behind.length + least ≤ rest.length)
    (hmem : behind ∈ times body n rest) : behind.length + n * least ≤ rest.length := by
  induction n generalizing rest with
  | zero =>
    obtain rfl := List.mem_singleton.1 hmem
    omega
  | succ n ih =>
    obtain ⟨middle, hmiddle, hmem⟩ := List.mem_flatMap.1 hmem
    have hfirst := hbody rest middle hmiddle
    have hothers := ih hmem
    rw [Nat.succ_mul]
    omega

theorem suffix_of_mem_times (hbody : ∀ rest, ∀ behind ∈ body rest, behind <:+ rest)
    (hmem : behind ∈ times body n rest) : behind <:+ rest := by
  induction n generalizing rest with
  | zero =>
    obtain rfl := List.mem_singleton.1 hmem
    exact List.suffix_refl _
  | succ n ih =>
    obtain ⟨middle, hmiddle, hmem⟩ := List.mem_flatMap.1 hmem
    exact (ih hmem).trans (hbody rest middle hmiddle)

theorem suffix_of_mem_upTo (hbody : ∀ rest, ∀ behind ∈ body rest, behind <:+ rest)
    (hmem : behind ∈ upTo greedy body n rest) : behind <:+ rest := by
  induction n generalizing rest with
  | zero =>
    obtain rfl := List.mem_singleton.1 hmem
    exact List.suffix_refl _
  | succ n ih =>
    rcases mem_prefer.1 hmem with hmem | hmem
    · obtain ⟨middle, hmiddle, hmem⟩ := List.mem_flatMap.1 hmem
      exact (ih hmem).trans (hbody rest middle hmiddle)
    · obtain rfl := List.mem_singleton.1 hmem
      exact List.suffix_refl _

/-- The matches of a repetition are some that it must have, and behind them some that it may
have. -/
theorem Node.mem_tails_repetition {node : Node} {min : Nat} {max : Option Nat}
    (hmem : behind ∈ (repetition greedy min max node).tails rest) :
    ∃ n, ∃ middle ∈ times node.tails min rest, behind ∈ upTo greedy node.tails n middle := by
  cases max with
  | none =>
    obtain ⟨middle, hmiddle, hmem⟩ := List.mem_flatMap.1 hmem
    exact ⟨_, middle, hmiddle, hmem⟩
  | some max =>
    obtain ⟨middle, hmiddle, hmem⟩ := List.mem_flatMap.1 hmem
    exact ⟨_, middle, hmiddle, hmem⟩

/-- What is left behind a match is an end of the text. -/
theorem Node.suffix_of_mem_tails {node : Node} (hmem : behind ∈ node.tails rest) :
    behind <:+ rest := by
  induction node generalizing rest behind with
  | empty =>
    obtain rfl := List.mem_singleton.1 hmem
    exact List.suffix_refl _
  | literal text => exact ⟨text, (Text.after?_eq_some_iff.1 (Option.mem_toList.1 hmem)).symm⟩
  | set chars =>
    cases rest with
    | nil => simp [tails, oneOf] at hmem
    | cons c rest =>
      by_cases hc : chars.contains c = true
      · simp only [tails, oneOf, if_pos hc, List.mem_singleton] at hmem
        rw [hmem]
        exact List.suffix_cons c rest
      · simp [tails, oneOf, hc] at hmem
  | assertion condition => simp [tails] at hmem
  | group number body ih => exact ih hmem
  | concat first second ih₁ ih₂ =>
    obtain ⟨middle, hmiddle, hmem⟩ := List.mem_flatMap.1 hmem
    exact (ih₂ hmem).trans (ih₁ hmiddle)
  | alt first second ih₁ ih₂ =>
    rcases List.mem_append.1 hmem with hmem | hmem
    · exact ih₁ hmem
    · exact ih₂ hmem
  | repetition greedy min max body ih =>
    obtain ⟨n, middle, hmiddle, hmem⟩ := mem_tails_repetition hmem
    have hbody (rest behind : Text) (hmem : behind ∈ body.tails rest) : behind <:+ rest := ih hmem
    exact (suffix_of_mem_upTo hbody hmem).trans (suffix_of_mem_times hbody hmiddle)

/-- A match is no shorter than its expression says. -/
theorem Node.length_of_mem_tails {node : Node} (hmin : node.minLength? = some least)
    (hmem : behind ∈ node.tails rest) : behind.length + least ≤ rest.length := by
  induction node generalizing least rest behind with
  | empty =>
    cases hmin
    obtain rfl := List.mem_singleton.1 hmem
    exact Nat.le_refl _
  | literal text =>
    cases hmin
    obtain rfl := Text.after?_eq_some_iff.1 (Option.mem_toList.1 hmem)
    rw [List.length_append]
    omega
  | set chars =>
    cases rest with
    | nil => simp [tails, oneOf] at hmem
    | cons c rest =>
      have hleast : least = 1 := by
        simp only [minLength?] at hmin
        split at hmin
        · cases hmin
        · exact (Option.some.inj hmin).symm
      by_cases hc : chars.contains c = true
      · simp [tails, oneOf, hc] at hmem
        simp only [hmem, hleast, List.length_cons, Nat.le_refl]
      · simp [tails, oneOf, hc] at hmem
  | assertion condition => simp [tails] at hmem
  | group number body ih => exact ih hmin hmem
  | concat first second ih₁ ih₂ =>
    simp only [minLength?] at hmin
    split at hmin
    · next m n hm hn =>
      cases hmin
      obtain ⟨middle, hmiddle, hmem⟩ := List.mem_flatMap.1 hmem
      have h₁ := ih₁ hm hmiddle
      have h₂ := ih₂ hn hmem
      omega
    · cases hmin
  | alt first second ih₁ ih₂ =>
    simp only [minLength?] at hmin
    split at hmin
    · next m n hm hn =>
      cases hmin
      rcases List.mem_append.1 hmem with hmem | hmem
      · have h₁ := ih₁ hm hmem
        omega
      · have h₂ := ih₂ hn hmem
        omega
    · cases hmin
  | repetition greedy min max body ih =>
    obtain ⟨m, hm, rfl⟩ := Option.map_eq_some_iff.1 hmin
    -- Only the rounds that there must be count for the length.
    obtain ⟨n, middle, hmiddle, hmem⟩ := mem_tails_repetition hmem
    have h₁ := length_of_mem_times (fun rest behind hmem => ih hm hmem) hmiddle
    have h₂ := (suffix_of_mem_upTo (fun rest behind hmem => suffix_of_mem_tails hmem)
      hmem).length_le
    omega

/-- A match of what consumes something leaves less than there was. -/
theorem Node.length_lt_of_consumes {node : Node} (hconsumes : node.consumes = true)
    (hmem : behind ∈ node.tails rest) : behind.length < rest.length := by
  obtain ⟨least, hmin, hpos⟩ := (Option.any_eq_true _ _).1 hconsumes
  have hle := Node.length_of_mem_tails hmin hmem
  simp only [decide_eq_true_eq] at hpos
  omega

end Matches

/-! ## §2. Programs -/

/-- The program holds the instructions from an address on. -/
def CodeAt (program : Array Instruction) (start : Nat) (code : List Instruction) : Prop :=
  ∀ n instruction, code[n]? = some instruction → program[start + n]? = some instruction

section Code

variable {program : Array Instruction} {start : Nat} {instruction : Instruction}
  {code first second : List Instruction}

theorem CodeAt.head (h : CodeAt program start (instruction :: code)) :
    program[start]? = some instruction :=
  h 0 instruction rfl

theorem CodeAt.tail (h : CodeAt program start (instruction :: code)) :
    CodeAt program (start + 1) code := by
  intro n other hother
  have hat := h (n + 1) other hother
  rwa [show start + (n + 1) = start + 1 + n by omega] at hat

theorem CodeAt.left (h : CodeAt program start (first ++ second)) : CodeAt program start first := by
  intro n other hother
  apply h n other
  have hlt : n < first.length := (List.getElem?_eq_some_iff.1 hother).1
  rw [List.getElem?_append_left hlt, hother]

theorem CodeAt.right (h : CodeAt program start (first ++ second)) :
    CodeAt program (start + first.length) second := by
  intro n other hother
  have hat := h (first.length + n) other (by
    rw [List.getElem?_append_right (Nat.le_add_right _ _), Nat.add_sub_cancel_left, hother])
  rwa [show start + (first.length + n) = start + first.length + n by omega] at hat

theorem length_copies {copies size : Nat} {piece : Nat → List Instruction}
    (hsize : ∀ n, (piece n).length = size) :
    ((List.range copies).flatMap piece).length = copies * size := by
  induction copies with
  | zero => simp
  | succ copies ih =>
    rw [List.range_succ, List.flatMap_append, List.length_append, ih, List.flatMap_singleton, hsize,
      Nat.succ_mul]

/-- One of the copies of a piece of code that follow each other. -/
theorem CodeAt.copy {copies size : Nat} {piece : Nat → List Instruction}
    (hsize : ∀ n, (piece n).length = size)
    (h : CodeAt program start ((List.range copies).flatMap piece)) {n : Nat} (hlt : n < copies) :
    CodeAt program (start + n * size) (piece n) := by
  induction copies with
  | zero => omega
  | succ copies ih =>
    -- The copy is the last one or stands among those in front of it.
    rw [List.range_succ, List.flatMap_append, List.flatMap_singleton] at h
    by_cases hlast : n = copies
    · subst hlast
      have hright := h.right
      rwa [length_copies hsize] at hright
    · exact ih h.left (by omega)

end Code

/-- Code is as long as its expression says. -/
theorem Node.length_code (node : Node) (start : Nat) : (node.code start).length = node.span := by
  induction node generalizing start with
  | empty => rfl
  | literal text => exact List.length_map _
  | set chars => rfl
  | assertion condition => rfl
  | group number body ih => exact ih start
  | concat first second ih₁ ih₂ =>
    simp only [code, span, List.length_append, ih₁, ih₂]
  | alt first second ih₁ ih₂ =>
    simp only [code, span, List.length_append, List.length_cons, ih₁, ih₂]
    omega
  | repetition greedy min max body ih =>
    cases max with
    | none =>
      cases min with
      | zero =>
        simp only [code, span, List.length_append, List.length_cons, List.length_nil, ih]
      | succ min =>
        simp only [code, span, List.length_append, List.length_cons, List.length_nil,
          length_copies fun n => ih _]
    | some max =>
      have hoption (n : Nat) : (Instruction.choose greedy
            (start + min * body.span + n * (body.span + 1) + 1)
            (start + min * body.span + (max - min) * (body.span + 1)) ::
          body.code (start + min * body.span + n * (body.span + 1) + 1)).length =
          body.span + 1 := by
        rw [List.length_cons, ih]
      simp only [code, span, List.length_append, length_copies fun n => ih _,
        length_copies hoption]

/-! ## §3. Programs lead to the matches -/

section Programs

variable {program : Array Instruction} {greedy : Bool} {body : Node} {rest : Text}
  {address again leave : Nat} {ends : Text → List Text}

theorem leads_choose {go : Nat} {ends ends' : List Text}
    (hat : program[address]? = some (.choose greedy go leave)) (hgo : Leads program rest go ends)
    (hleave : Leads program rest leave ends') :
    Leads program rest address (prefer greedy ends ends') := by
  cases greedy
  · exact .fork hat hleave hgo
  · exact .fork hat hgo hleave

/-- The code of a body leads to its matches, from each address where it stands. -/
def BodyLeads (program : Array Instruction) (body : Node) : Prop :=
  ∀ start rest ends, CodeAt program start (body.code start) →
    (∀ behind ∈ body.tails rest, Leads program behind (start + body.span) (ends behind)) →
    Leads program rest start ((body.tails rest).flatMap ends)

/-- A loop, entered where it chooses between its body and the way out. -/
theorem leads_loop (hbody : BodyLeads program body) (hconsumes : body.consumes = true)
    (hat : program[address]? = some (.choose greedy again leave))
    (hcode : CodeAt program again (body.code again))
    (hloop : program[again + body.span]? = some (.choose greedy again leave)) {n : Nat}
    (hn : rest.length ≤ n)
    (hends : ∀ behind ∈ upTo greedy body.tails n rest, Leads program behind leave (ends behind)) :
    Leads program rest address ((upTo greedy body.tails n rest).flatMap ends) := by
  induction n generalizing rest address with
  | zero =>
    obtain rfl := List.length_eq_zero_iff.1 (Nat.le_zero.1 hn)
    -- Nothing can be consumed at the end of the text.
    have hnone : body.tails [] = [] :=
      List.eq_nil_iff_forall_not_mem.2 fun behind hmem =>
        absurd (Node.length_lt_of_consumes hconsumes hmem) (Nat.not_lt_zero _)
    have hgo : Leads program [] again [] := by
      have hleads := hbody again [] ends hcode (by simp [hnone])
      rwa [hnone] at hleads
    have hleads := leads_choose hat hgo (hends [] (by simp [upTo]))
    simpa [upTo, prefer] using hleads
  | succ n ih =>
    -- Behind a round less is left of the text, and the loop is entered again with less.
    have hgo : Leads program rest again
        ((body.tails rest).flatMap fun middle =>
          (upTo greedy body.tails n middle).flatMap ends) := by
      apply hbody again rest _ hcode
      intro middle hmiddle
      have hlt := Node.length_lt_of_consumes hconsumes hmiddle
      refine ih hloop (by omega) fun behind hmem => hends behind ?_
      exact mem_prefer.2 (.inl (List.mem_flatMap.2 ⟨middle, hmiddle, hmem⟩))
    have hleave := hends rest (mem_prefer.2 (.inr (by simp)))
    have hleads := leads_choose hat hgo hleave
    simpa [upTo, flatMap_prefer, List.flatMap_assoc] using hleads

/-- The copies of a body that have to be matched. -/
theorem leads_times (hbody : BodyLeads program body) {copies start : Nat}
    (hcode : ∀ n < copies, CodeAt program (start + n * body.span)
      (body.code (start + n * body.span)))
    (hends : ∀ behind ∈ times body.tails copies rest,
      Leads program behind (start + copies * body.span) (ends behind)) :
    Leads program rest start ((times body.tails copies rest).flatMap ends) := by
  induction copies generalizing start rest with
  | zero => simpa [times] using hends rest (by simp [times])
  | succ copies ih =>
    have hfirst : CodeAt program start (body.code start) := by
      simpa using hcode 0 (Nat.succ_pos copies)
    have hleads : Leads program rest start
        ((body.tails rest).flatMap fun middle =>
          (times body.tails copies middle).flatMap ends) := by
      apply hbody start rest _ hfirst
      intro middle hmiddle
      refine ih (fun n hlt => ?_) fun behind hmem => ?_
      · have hcopy := hcode (n + 1) (Nat.succ_lt_succ hlt)
        rwa [show start + (n + 1) * body.span = start + body.span + n * body.span by
          rw [Nat.succ_mul]; omega] at hcopy
      · have hend := hends behind (List.mem_flatMap.2 ⟨middle, hmiddle, hmem⟩)
        rwa [show start + (copies + 1) * body.span = start + body.span + copies * body.span by
          rw [Nat.succ_mul]; omega] at hend
    simpa [times, List.flatMap_assoc] using hleads

/-- The copies of a body that may be matched, each behind the choice to leave. -/
theorem leads_upTo (hbody : BodyLeads program body) {copies start : Nat}
    (hleave : start + copies * (body.span + 1) = leave)
    (hcode : ∀ n < copies, CodeAt program (start + n * (body.span + 1))
      (.choose greedy (start + n * (body.span + 1) + 1) leave ::
        body.code (start + n * (body.span + 1) + 1)))
    (hends : ∀ behind ∈ upTo greedy body.tails copies rest,
      Leads program behind leave (ends behind)) :
    Leads program rest start ((upTo greedy body.tails copies rest).flatMap ends) := by
  induction copies generalizing start rest with
  | zero =>
    obtain rfl : start = leave := by omega
    simpa [upTo] using hends rest (by simp [upTo])
  | succ copies ih =>
    have hfirst : CodeAt program start
        (.choose greedy (start + 1) leave :: body.code (start + 1)) := by
      simpa using hcode 0 (Nat.succ_pos copies)
    have hgo : Leads program rest (start + 1) ((body.tails rest).flatMap fun middle =>
        (upTo greedy body.tails copies middle).flatMap ends) := by
      apply hbody (start + 1) rest _ hfirst.tail
      intro middle hmiddle
      refine ih ?_ (fun n hlt => ?_) fun behind hmem => ?_
      · rw [Nat.succ_mul] at hleave
        omega
      · have hcopy := hcode (n + 1) (Nat.succ_lt_succ hlt)
        rwa [show start + (n + 1) * (body.span + 1) =
          start + 1 + body.span + n * (body.span + 1) by rw [Nat.succ_mul]; omega] at hcopy
      · exact hends behind (mem_prefer.2 (.inl (List.mem_flatMap.2 ⟨middle, hmiddle, hmem⟩)))
    have hskip := hends rest (mem_prefer.2 (.inr (by simp)))
    have hleads := leads_choose hfirst.head hgo hskip
    simpa [upTo, flatMap_prefer, List.flatMap_assoc] using hleads

theorem contains_single {c d : Char} : (CharSet.single c).contains d = true ↔ d = c := by
  simp only [CharSet.single, CharSet.range, CharSet.contains, Text.CodeRanges.has, List.any_cons,
    List.any_nil, Bool.or_false, Bool.and_eq_true, decide_eq_true_eq]
  constructor
  · rintro ⟨hle, hge⟩
    exact Char.toNat_inj.1 (by omega)
  · rintro rfl
    exact ⟨Nat.le_refl _, Nat.le_refl _⟩

/-- A set takes one of its characters. -/
theorem leads_oneOf {chars : CharSet} (hat : program[address]? = some (.take chars))
    (hends : ∀ behind ∈ oneOf chars rest, Leads program behind (address + 1) (ends behind)) :
    Leads program rest address ((oneOf chars rest).flatMap ends) := by
  cases rest with
  | nil => exact (leads_take_nil_iff hat).2 rfl
  | cons c rest =>
    rw [leads_take_cons_iff hat]
    by_cases hc : chars.contains c = true
    · rw [if_pos hc]
      simpa [oneOf, hc] using hends rest (by simp [oneOf, hc])
    · simp [oneOf, hc]

/-- A literal takes its characters one after the other. -/
theorem leads_literal {text : List Char}
    (hcode : CodeAt program address (text.map fun c => .take (.single c)))
    (hends : ∀ behind ∈ (Text.after? text rest).toList,
      Leads program behind (address + text.length) (ends behind)) :
    Leads program rest address ((Text.after? text rest).toList.flatMap ends) := by
  induction text generalizing address rest with
  | nil => simpa [Text.after?] using hends rest (by simp [Text.after?])
  | cons c text ih =>
    have hat : program[address]? = some (.take (.single c)) := hcode.head
    cases rest with
    | nil => exact (leads_take_nil_iff hat).2 rfl
    | cons d rest =>
      rw [leads_take_cons_iff hat]
      by_cases hd : c = d
      · rw [if_pos (contains_single.2 hd.symm)]
        simp only [Text.after?, if_pos hd] at hends ⊢
        apply ih hcode.tail
        intro behind hmem
        have hend := hends behind hmem
        rwa [List.length_cons, show address + (text.length + 1) = address + 1 + text.length by
          omega] at hend
      · rw [if_neg fun hcontains => hd (contains_single.1 hcontains).symm]
        simp [Text.after?, hd]

namespace BodyLeads

variable {first second : Node}

theorem concat (h₁ : BodyLeads program first) (h₂ : BodyLeads program second) :
    BodyLeads program (.concat first second) := by
  intro start rest ends hcode hends
  have hcode₂ : CodeAt program (start + first.span) (second.code (start + first.span)) := by
    have hright := CodeAt.right hcode
    rwa [Node.length_code] at hright
  have hleads : Leads program rest start
      ((first.tails rest).flatMap fun middle => (second.tails middle).flatMap ends) := by
    apply h₁ start rest _ (CodeAt.left hcode)
    intro middle hmiddle
    apply h₂ _ middle ends hcode₂
    intro behind hmem
    have hend := hends behind (List.mem_flatMap.2 ⟨middle, hmiddle, hmem⟩)
    rwa [Node.span, ← Nat.add_assoc] at hend
  simpa [Node.tails, List.flatMap_assoc] using hleads

theorem alt (h₁ : BodyLeads program first) (h₂ : BodyLeads program second) :
    BodyLeads program (.alt first second) := by
  intro start rest ends hcode hends
  have hspan : (Node.alt first second).span = first.span + second.span + 2 := rfl
  -- Behind the first alternative stands a jump over the second one.
  have hbehind := CodeAt.right hcode.tail
  rw [Node.length_code] at hbehind
  have hleads₁ : Leads program rest (start + 1) ((first.tails rest).flatMap ends) := by
    apply h₁ (start + 1) rest ends (CodeAt.left hcode.tail)
    intro behind hmem
    have hend := hends behind (List.mem_append_left _ hmem)
    apply Leads.jump hbehind.head
    rwa [show start + first.span + 2 + second.span = start + (Node.alt first second).span by
      rw [hspan]; omega]
  have hleads₂ : Leads program rest (start + first.span + 2)
      ((second.tails rest).flatMap ends) := by
    have hcode₂ := hbehind.tail
    rw [show start + 1 + first.span + 1 = start + first.span + 2 by omega] at hcode₂
    apply h₂ _ rest ends hcode₂
    intro behind hmem
    have hend := hends behind (List.mem_append_right _ hmem)
    rwa [show start + (Node.alt first second).span = start + first.span + 2 + second.span by
      rw [hspan]; omega] at hend
  simpa [Node.tails] using Leads.fork hcode.head hleads₁ hleads₂

/-- A repetition without bound: the last copy of the body is that of the loop. -/
theorem unbounded (hbody : BodyLeads program body) (hconsumes : body.consumes = true)
    (greedy : Bool) (min : Nat) : BodyLeads program (.repetition greedy min none body) := by
  intro start rest ends hcode hends
  cases min with
  | zero =>
    have hmatches : (Node.repetition greedy 0 none body).tails rest =
        upTo greedy body.tails rest.length rest := by
      simp [Node.tails, times]
    have hloop := CodeAt.right hcode.tail
    rw [Node.length_code] at hloop
    rw [hmatches] at hends ⊢
    exact leads_loop hbody hconsumes hcode.head (CodeAt.left hcode.tail) hloop.head
      (Nat.le_refl _) hends
  | succ min =>
    -- The loop goes back to the last of the copies that have to be matched.
    have hchoose := CodeAt.right hcode
    rw [length_copies fun n => Node.length_code body _] at hchoose
    have hcopy (n : Nat) (hlt : n < min + 1) :
        CodeAt program (start + n * body.span) (body.code (start + n * body.span)) :=
      (CodeAt.left hcode).copy (fun n => Node.length_code body _) hlt
    have hlast := hcopy min (Nat.lt_succ_self min)
    have hagain : start + (min + 1) * body.span = start + min * body.span + body.span := by
      rw [Nat.succ_mul]
      omega
    have hleads : Leads program rest start ((times body.tails (min + 1) rest).flatMap
        fun middle => (upTo greedy body.tails middle.length middle).flatMap ends) := by
      apply leads_times hbody hcopy
      intro middle hmiddle
      have hat := hchoose.head
      apply leads_loop hbody hconsumes hat hlast (hagain ▸ hat) (Nat.le_refl _)
      intro behind hmem
      have hend := hends behind (List.mem_flatMap.2 ⟨middle, hmiddle, hmem⟩)
      simp only [Node.span] at hend
      rwa [← Nat.add_assoc, hagain] at hend
    simpa [Node.tails, List.flatMap_assoc] using hleads

/-- A bounded repetition: copies that have to be matched, and then copies that may be. -/
theorem bounded (hbody : BodyLeads program body) (greedy : Bool) (min max : Nat) :
    BodyLeads program (.repetition greedy min (some max) body) := by
  intro start rest ends hcode hends
  simp only [Node.code] at hcode
  have hoptions := CodeAt.right hcode
  rw [length_copies fun n => Node.length_code body _] at hoptions
  have hleads : Leads program rest start ((times body.tails min rest).flatMap
      fun middle => (upTo greedy body.tails (max - min) middle).flatMap ends) := by
    apply leads_times hbody
    · intro n hlt
      exact (CodeAt.left hcode).copy (fun n => Node.length_code body _) hlt
    intro middle hmiddle
    apply leads_upTo hbody rfl
    · intro n hlt
      refine hoptions.copy (fun n => ?_) hlt
      rw [List.length_cons, Node.length_code]
    · intro behind hmem
      have hend := hends behind (List.mem_flatMap.2 ⟨middle, hmiddle, hmem⟩)
      simp only [Node.span] at hend
      rwa [← Nat.add_assoc] at hend
  simpa [Node.tails, List.flatMap_assoc] using hleads

end BodyLeads

/-- The code of a plain expression leads to its matches. -/
theorem Node.leads {node : Node} (hplain : node.plain = true) : BodyLeads program node := by
  induction node with
  | empty =>
    intro start rest ends _ hends
    simpa [tails, span] using hends rest (by simp [tails])
  | literal text =>
    intro start rest ends hcode hends
    exact leads_literal hcode hends
  | set chars =>
    intro start rest ends hcode hends
    exact leads_oneOf hcode.head hends
  | assertion condition => cases hplain
  | group number body ih => exact ih hplain
  | concat first second ih₁ ih₂ =>
    obtain ⟨hplain₁, hplain₂⟩ := Bool.and_eq_true_iff.1 hplain
    exact (ih₁ hplain₁).concat (ih₂ hplain₂)
  | alt first second ih₁ ih₂ =>
    obtain ⟨hplain₁, hplain₂⟩ := Bool.and_eq_true_iff.1 hplain
    exact (ih₁ hplain₁).alt (ih₂ hplain₂)
  | repetition greedy min max body ih =>
    obtain ⟨hbody, hbound⟩ := Bool.and_eq_true_iff.1 hplain
    cases max with
    | none => exact (ih hbody).unbounded (by simpa using hbound) greedy min
    | some max => exact (ih hbody).bounded greedy min max

end Programs

/-! ## §4. Patterns -/

/-- The program of a plain expression finds the first match. -/
theorem matchAt_program {node : Node} (hplain : node.plain = true) (before : Option Char)
    (rest : Text) : matchAt node.program before rest =
      (node.tails rest).head?.map fun behind => rest.length - behind.length := by
  have hcode : CodeAt node.program 0 (node.code 0 ++ [.stop]) := by
    intro n instruction hat
    simpa [Node.program] using hat
  have hleads : Leads node.program rest 0 ((node.tails rest).flatMap fun behind => [behind]) := by
    refine Node.leads hplain 0 rest _ hcode.left fun behind _ => .stop ?_
    have hstop := hcode.right.head
    rwa [Node.length_code] at hstop
  rw [List.flatMap_singleton'] at hleads
  exact matchAt_eq_of_leads hleads

/-- The expression's first match at the start of both texts is the first of them. -/
def Node.Matches (node : Node) (text behind : Text) : Prop :=
  (node.tails (text ++ behind)).head? = some behind

/-- A pattern that was compiled from a plain expression finds the expression's first match. -/
theorem findAt_eq_some_iff {pattern : Pattern} {node : Node}
    (hanchored : pattern.anchored = some node.program) (hplain : node.plain = true)
    {input text : Text} {index : Nat} : pattern.findAt input index = some text ↔
      ∃ behind, input.dropBytes? index = some (text ++ behind) ∧ node.Matches text behind := by
  simp only [Pattern.findAt, hanchored, matchAt_program hplain]
  cases hdrop : input.dropBytes? index with
  | none => simp
  | some rest =>
    simp only [Option.map_map, Option.map_eq_some_iff, Function.comp_apply]
    constructor
    · rintro ⟨behind, hhead, rfl⟩
      obtain ⟨front, rfl⟩ := Node.suffix_of_mem_tails (List.mem_of_mem_head? hhead)
      have htake : (front ++ behind).take ((front ++ behind).length - behind.length) = front := by
        rw [List.length_append, Nat.add_sub_cancel, List.take_left]
      exact ⟨behind, by rw [htake], by rw [Node.Matches, htake, hhead]⟩
    · rintro ⟨behind, hrest, hmatches⟩
      cases hrest
      refine ⟨behind, hmatches, ?_⟩
      rw [List.length_append, Nat.add_sub_cancel, List.take_left]

end Backtrack.Regex
