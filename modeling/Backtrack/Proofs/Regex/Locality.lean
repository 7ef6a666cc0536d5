import Mathlib.Data.List.Basic
import Backtrack.Proofs.Regex.Tails

/-! # Matches in front of a character

    An expression that can match no text with a certain character in it does
    not see what stands behind that character. Its matches in front of the
    character are those in the text up to there, and so is what its pattern
    finds.

    * `Node.keeps_tails`: the matches.
    * `findAt_eq_findAt`: two places that are alike up to the character. -/

namespace Backtrack.Regex

/-! ## §1. Matches -/

/-- No match of the expression holds the character. -/
def Node.avoids (c : Char) : Node → Bool
  | empty => true
  | literal text => decide (c ∉ text)
  | set chars => !chars.contains c
  | assertion _ => true
  | group _ body => body.avoids c
  | concat first second => first.avoids c && second.avoids c
  | alt first second => first.avoids c && second.avoids c
  | repetition _ _ _ body => body.avoids c

section Matches

variable {greedy : Bool} {body : Text → List Text} {n m : Nat} {c : Char} {rest behind more : Text}

/-- What comes behind a text stays behind all that is left of it. -/
def Keeps (body : Text → List Text) (more : Text) : Prop :=
  ∀ rest, body (rest ++ more) = (body rest).map (· ++ more)

theorem Keeps.flatMap {first second : Text → List Text} (hfirst : Keeps first more)
    (hsecond : Keeps second more) : Keeps (fun rest => (first rest).flatMap second) more := by
  intro rest
  simp only [hfirst rest, List.flatMap_map, List.map_flatMap]
  exact List.flatMap_congr fun middle _ => hsecond middle

theorem Keeps.times (hbody : Keeps body more) : Keeps (times body n) more := by
  induction n with
  | zero => exact fun rest => rfl
  | succ n ih => exact hbody.flatMap ih

theorem Keeps.upTo (hbody : Keeps body more) : Keeps (upTo greedy body n) more := by
  induction n with
  | zero => exact fun rest => rfl
  | succ n ih =>
    intro rest
    have hgo := hbody.flatMap ih rest
    simp only at hgo
    cases greedy
    · simp [Regex.upTo, prefer, hgo]
    · simp [Regex.upTo, prefer, hgo]

/-- Of what consumes something no more matches than there are characters follow each other, so any
such number is as good as another. -/
theorem upTo_eq_upTo (hbody : ∀ rest, ∀ behind ∈ body rest, behind.length < rest.length)
    (hn : rest.length ≤ n) (hm : rest.length ≤ m) :
    upTo greedy body n rest = upTo greedy body m rest := by
  have hnil (k : Nat) : upTo greedy body k [] = [[]] := by
    have hnone : body [] = [] :=
      List.eq_nil_iff_forall_not_mem.2 fun behind hmem =>
        absurd (hbody [] behind hmem) (Nat.not_lt_zero _)
    cases k with
    | zero => rfl
    | succ k => cases greedy <;> simp [upTo, prefer, hnone]
  induction n generalizing m rest with
  | zero =>
    obtain rfl := List.length_eq_zero_iff.1 (Nat.le_zero.1 hn)
    rw [hnil, hnil]
  | succ n ih =>
    cases m with
    | zero =>
      obtain rfl := List.length_eq_zero_iff.1 (Nat.le_zero.1 hm)
      rw [hnil, hnil]
    | succ m =>
      have hgo : (body rest).flatMap (upTo greedy body n) =
          (body rest).flatMap (upTo greedy body m) := by
        refine List.flatMap_congr fun middle hmem => ?_
        have hlt := hbody rest middle hmem
        exact ih (by omega) (by omega)
      simp only [upTo, hgo]

theorem keeps_literal {text : Text} (hc : c ∉ text) :
    Keeps (fun rest => (Text.after? text rest).toList) (c :: behind) := by
  induction text with
  | nil => exact fun rest => rfl
  | cons d text ih =>
    rw [List.mem_cons, not_or] at hc
    obtain ⟨hd, htext⟩ := hc
    intro rest
    cases rest with
    | nil => simp [Text.after?, Ne.symm hd]
    | cons e rest =>
      by_cases he : d = e
      · simpa [Text.after?, he] using ih htext rest
      · simp [Text.after?, he]

theorem keeps_oneOf {chars : CharSet} (hc : chars.contains c = false) :
    Keeps (oneOf chars) (c :: behind) := by
  intro rest
  cases rest with
  | nil => simp [oneOf, hc]
  | cons d rest => by_cases hd : chars.contains d = true <;> simp [oneOf, hd]

/-- The matches of an expression in front of a character that it avoids. -/
theorem Node.keeps_tails {node : Node} (hplain : node.plain = true)
    (havoids : node.avoids c = true) : Keeps node.tails (c :: behind) := by
  induction node with
  | empty => exact fun rest => rfl
  | literal text => exact keeps_literal (of_decide_eq_true havoids)
  | set chars => exact keeps_oneOf (by simpa [avoids] using havoids)
  | assertion condition => cases hplain
  | group number body ih => exact ih hplain havoids
  | concat first second ih₁ ih₂ =>
    obtain ⟨hplain₁, hplain₂⟩ := Bool.and_eq_true_iff.1 hplain
    obtain ⟨havoids₁, havoids₂⟩ := Bool.and_eq_true_iff.1 havoids
    exact (ih₁ hplain₁ havoids₁).flatMap (ih₂ hplain₂ havoids₂)
  | alt first second ih₁ ih₂ =>
    obtain ⟨hplain₁, hplain₂⟩ := Bool.and_eq_true_iff.1 hplain
    obtain ⟨havoids₁, havoids₂⟩ := Bool.and_eq_true_iff.1 havoids
    intro rest
    simp only [tails, ih₁ hplain₁ havoids₁ rest, ih₂ hplain₂ havoids₂ rest, List.map_append]
  | repetition greedy min max body ih =>
    obtain ⟨hplain, hbound⟩ := Bool.and_eq_true_iff.1 hplain
    have hbody : Keeps body.tails (c :: behind) := ih hplain havoids
    cases max with
    | some max => exact hbody.times.flatMap hbody.upTo
    | none =>
      -- The text has grown, and with it the number of rounds that are tried.
      have hconsumes : body.consumes = true := by simpa using hbound
      have hloop : Keeps (fun rest => upTo greedy body.tails rest.length rest) (c :: behind) := by
        intro rest
        have hrounds : upTo greedy body.tails rest.length rest =
            upTo greedy body.tails (rest ++ c :: behind).length rest :=
          upTo_eq_upTo (fun _ _ hmem => Node.length_lt_of_consumes hconsumes hmem) (Nat.le_refl _)
            (by simp)
        simp only [hrounds]
        exact hbody.upTo rest
      exact hbody.times.flatMap hloop

end Matches

/-! ## §2. Patterns -/

section Patterns

variable {pattern : Pattern} {node : Node} {c : Char} {input input' rest behind behind' : Text}
  {index index' : Nat}

/-- In front of a character that its expression avoids, a pattern finds the first match in the text
up to there. -/
theorem findAt_of_avoids (hanchored : pattern.anchored = some node.program)
    (hplain : node.plain = true) (havoids : node.avoids c = true)
    (hindex : input.dropBytes? index = some (rest ++ c :: behind)) :
    pattern.findAt input index =
      (node.tails rest).head?.map fun left => rest.take (rest.length - left.length) := by
  simp only [Pattern.findAt, hanchored, matchAt_program hplain, hindex,
    Node.keeps_tails hplain havoids rest, List.head?_map, Option.map_map]
  refine Option.map_congr fun left _ => ?_
  simp only [Function.comp_apply, List.length_append, Nat.add_sub_add_right]
  exact List.take_append_of_le_length (Nat.sub_le _ _)

/-- At places that are alike up to a character that its expression avoids, a pattern finds the
same. -/
theorem findAt_eq_findAt (hanchored : pattern.anchored = some node.program)
    (hplain : node.plain = true) (havoids : node.avoids c = true)
    (hindex : input.dropBytes? index = some (rest ++ c :: behind))
    (hindex' : input'.dropBytes? index' = some (rest ++ c :: behind')) :
    pattern.findAt input index = pattern.findAt input' index' := by
  rw [findAt_of_avoids hanchored hplain havoids hindex,
    findAt_of_avoids hanchored hplain havoids hindex']

end Patterns

end Backtrack.Regex
