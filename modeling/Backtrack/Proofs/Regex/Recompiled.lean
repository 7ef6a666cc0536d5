import Backtrack.Proofs.Parser.Extent
import Backtrack.Proofs.Regex.Anchoring

/-! # Which expression a pattern stands for

    A pattern that is made of a compiled expression compiles its source again,
    under the default options, and matches with the outcome. So it stands for
    the expression that it was made of where that was compiled under these
    options, and where its source cannot be compiled under them. Otherwise
    the options that the expression was compiled under are lost.

    * `Pattern.findAt_ofRegex_iff`: the pattern in terms of a search.
    * `Pattern.parses_ofRegex_iff`: the same for the parser. -/

namespace Backtrack

variable {ρ α : Type}

/-! ## §1. Searches that find their match where they start -/

namespace Regex

variable {program : Array Instruction} {before : Option Char} {input text : Text} {index : Nat}

/-- At the end of a text there is one place to start. -/
theorem start_of_search_nil {m : Nat × Nat} (h : search program before [] = some m) :
    m.1 = 0 := by
  have hstems : (arrive program true before none 0 none (unexplored program) []).Stems 1
      (unexplored program) [] [⟨0, 0⟩] := explore_stems _ _ _ _ _ _ _ _
  unfold search at h
  simp only [run, Explored.found, Option.or_none] at h
  obtain ⟨start, hstart, rfl⟩ := Option.map_eq_some_iff.1 h
  simpa using hstems.stopped start hstart

/-- What is found at the place where the search starts is a match that is anchored there. -/
theorem findFrom_eq_some_self_iff {regex : Regex} :
    regex.findFrom input index = some (index, text) ↔
      ∃ rest n, input.dropBytes? index = some rest ∧
        matchAt regex.program (input.charBefore? index) rest = some n ∧ rest.take n = text := by
  unfold findFrom
  cases input.dropBytes? index with
  | none => simp
  | some rest =>
    constructor
    · intro h
      obtain ⟨⟨start, stop⟩, hsearch, hpair⟩ := Option.map_eq_some_iff.1 h
      obtain ⟨hindex, htext⟩ := Prod.mk.inj hpair
      -- Nothing is in front of the start, and then the start is the first place.
      have hsize : Text.size (rest.take start) = 0 := by omega
      have hstart : start = 0 := by
        rcases List.take_eq_nil_iff.1 (Text.size_eq_zero_iff.1 hsize) with hstart | hrest
        · exact hstart
        · rw [hrest] at hsearch
          exact start_of_search_nil hsearch
      subst hstart
      exact ⟨rest, stop, rfl, matchAt_eq_some_iff.2 hsearch, by simpa [between] using htext⟩
    · rintro ⟨_, n, hrest, hmatch, rfl⟩
      cases hrest
      simp [matchAt_eq_some_iff.1 hmatch, between]

/-- The expression that is matched for this one: what its source is compiled to under the default
options, and itself if that fails. -/
def recompiled (regex : Regex) : Regex :=
  (compile? regex.source).getD regex

/-- An expression that was compiled under the default options is matched itself. -/
theorem recompiled_of_compile? {source : Text} {regex : Regex}
    (h : compile? source = some regex) : regex.recompiled = regex := by
  rw [recompiled, source_of_compile? h, h]
  rfl

/-- So is one that cannot be compiled under them. -/
theorem recompiled_of_compile?_eq_none {regex : Regex} (h : compile? regex.source = none) :
    regex.recompiled = regex := by
  rw [recompiled, h]
  rfl

end Regex

/-! ## §2. Patterns -/

section Patterns

variable {input text : Text} {index : Nat} {regex : Regex}

/-- With an anchored program a pattern finds what a search with this program finds where it
starts. -/
theorem Pattern.findAt_anchored_iff {pattern : Pattern}
    (h : pattern.anchored = some regex.program) : pattern.findAt input index = some text ↔
      regex.findFrom input index = some (index, text) := by
  simp only [Pattern.findAt, h, Regex.findFrom_eq_some_self_iff]
  cases input.dropBytes? index with
  | none => simp
  | some rest => simp

/-- Without one it finds what a search with its own expression finds where it starts. -/
theorem Pattern.findAt_search_iff {pattern : Pattern} (h : pattern.anchored = none) :
    pattern.findAt input index = some text ↔
      pattern.regex.findFrom input index = some (index, text) := by
  simp only [Pattern.findAt, h]
  cases pattern.regex.findFrom input index with
  | none => simp
  | some found =>
    obtain ⟨start, found⟩ := found
    simp only [Option.some.injEq, Prod.mk.injEq]
    split
    · next hstart => simp [hstart]
    · next hstart => simp [hstart]

/-- A pattern finds what the expression that is matched for it finds where the search starts. -/
theorem Pattern.findAt_ofRegex_iff : (Pattern.ofRegex regex).findAt input index = some text ↔
    regex.recompiled.findFrom input index = some (index, text) := by
  cases hcompile : Regex.compile? regex.source with
  | none =>
    rw [Regex.recompiled_of_compile?_eq_none hcompile]
    exact Pattern.findAt_search_iff (by simp [Pattern.ofRegex, hcompile])
  | some again =>
    have hrecompiled : regex.recompiled = again := by
      rw [Regex.recompiled, hcompile]
      rfl
    rw [hrecompiled]
    exact Pattern.findAt_anchored_iff (by simp [Pattern.ofRegex, hcompile])

theorem matchPattern_eq_success_iff {pattern : Pattern} {success : Success (Value α)} :
    matchPattern input pattern index = .success success ↔
      pattern.findAt input index = some success.text ∧
        success = ⟨success.text, index, .text success.text⟩ := by
  unfold matchPattern
  cases pattern.findAt input index with
  | none => simp
  | some text =>
    simp only [Outcome.success.injEq, Option.some.injEq]
    constructor
    · rintro rfl
      exact ⟨rfl, rfl⟩
    · rintro ⟨rfl, hsuccess⟩
      exact hsuccess.symm

/-- **What a pattern of a compiled expression matches.** Whatever options the expression was
compiled under, the parser matches a text at an index exactly if the search from there, with the
expression that its source is compiled to under the default options, finds this text at the index.
If the expression was compiled under the default options, or its source cannot be compiled under
them, this is the search with the expression itself. -/
theorem Pattern.parses_ofRegex_iff (rules : ρ → Option (Parser ρ α)) (regex : Regex)
    (input : Text) (index : Nat) (text : Text) :
    ((∃ success, Evaluates rules input ⊤ (.parse (.pattern (.ofRegex regex)) index)
        (.success success) ∧ success.text = text) ↔
      regex.recompiled.findFrom input index = some (index, text)) ∧
    (Regex.compile? regex.source = some regex ∨ Regex.compile? regex.source = none →
      ((∃ success, Evaluates rules input ⊤ (.parse (.pattern (.ofRegex regex)) index)
        (.success success) ∧ success.text = text) ↔
      regex.findFrom input index = some (index, text))) := by
  have hparses : (∃ success, Evaluates rules input ⊤ (.parse (.pattern (.ofRegex regex)) index)
      (.success success) ∧ success.text = text) ↔
      regex.recompiled.findFrom input index = some (index, text) := by
    rw [← Pattern.findAt_ofRegex_iff]
    constructor
    · rintro ⟨success, hevaluates, rfl⟩
      exact (matchPattern_eq_success_iff.1 (evaluates_pattern_iff.1 hevaluates).symm).1
    · intro hfound
      refine ⟨⟨text, index, .text text⟩, evaluates_pattern_iff.2 ?_, rfl⟩
      exact (matchPattern_eq_success_iff.2 ⟨hfound, rfl⟩).symm
  refine ⟨hparses, fun h => ?_⟩
  rcases h with h | h
  · rwa [Regex.recompiled_of_compile? h] at hparses
  · rwa [Regex.recompiled_of_compile?_eq_none h] at hparses

/-- The letter `a` in both cases finds a capital, and a parser that is made of it does not. -/
theorem not_forall_parses_ofRegex :
    ¬ ∀ (source : Text) (options : Regex.Options) (limit : Nat) (regex : Regex),
      Regex.compile? source options limit = some regex →
      ∀ (input : Text) (index : Nat) (text : Text), input.isBoundary index = true →
        ((∃ success : Success (Value Unit), Evaluates (fun _ : Unit => none) input ⊤
            (.parse (.pattern (.ofRegex regex)) index) (.success success) ∧ success.text = text) ↔
          regex.findFrom input index = some (index, text)) := by
  intro h
  have hfinds : (Regex.compile? ['a'] { ignoreCase := true }).map (fun regex =>
      (regex.findFrom ['A'] 0, (Pattern.ofRegex regex).findAt ['A'] 0)) =
        some (some (0, ['A']), none) := by
    decide +kernel
  obtain ⟨regex, hcompile, hpair⟩ := Option.map_eq_some_iff.1 hfinds
  obtain ⟨hsearch, hmatch⟩ := Prod.mk.inj hpair
  obtain ⟨success, hevaluates, _⟩ := (h _ _ _ regex hcompile ['A'] 0 ['A'] rfl).2 hsearch
  have hfound := (matchPattern_eq_success_iff.1 (evaluates_pattern_iff.1 hevaluates).symm).1
  rw [hmatch] at hfound
  cases hfound

end Patterns

end Backtrack
