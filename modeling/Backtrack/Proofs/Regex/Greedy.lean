import Mathlib.Data.List.TakeWhile
import Backtrack.Proofs.Regex.Tails

/-! # Greedy matches

    The first match of the expressions that tokens are made of: characters
    of a set as long as they last, and parts that may be missing. Where
    something follows that begins with no character of the set, only the
    longest run of characters can match.

    * `head?_tails_many`: a run of characters ends where the next one is not
      in the set.
    * `flatMap_tails_many`: what follows a run only has to be looked for
      behind all of it. -/

namespace Backtrack.Regex

variable {chars : CharSet} {node first second : Node} {text behind rest middle : Text} {c : Char}

/-! ## §1. Runs -/

namespace Node

/-- Any number of characters of a set. -/
def many (chars : CharSet) : Node :=
  repetition true 0 none (set chars)

/-- One character of a set or more. -/
def many1 (chars : CharSet) : Node :=
  repetition true 1 none (set chars)

/-- The body or nothing. -/
def optional (body : Node) : Node :=
  repetition true 0 (some 1) body

end Node

/-- The text does not go on with a character of the set. -/
def NotNext (p : Char → Bool) (behind : Text) : Prop :=
  ∀ c ∈ behind.head?, p c = false

theorem notNext_cons_iff {p : Char → Bool} : NotNext p (c :: rest) ↔ p c = false := by
  simp [NotNext]

/-- A run of characters ends in one place. -/
theorem dropWhile_append_eq_iff {p : Char → Bool} :
    (text ++ behind).dropWhile p = behind ↔ (∀ c ∈ text, p c = true) ∧ NotNext p behind := by
  constructor
  · intro h
    have hsplit := List.takeWhile_append_dropWhile (p := p) (l := text ++ behind)
    rw [h] at hsplit
    have htext : (text ++ behind).takeWhile p = text := List.append_cancel_right hsplit
    refine ⟨fun c hmem => ?_, fun c hmem => ?_⟩
    · rw [← htext] at hmem
      exact List.mem_takeWhile_imp hmem
    · have hhead := List.head?_dropWhile_not p (text ++ behind)
      rw [h, Option.mem_def.1 hmem] at hhead
      exact hhead
  · rintro ⟨htext, hbehind⟩
    rw [List.dropWhile_append_of_pos htext]
    cases behind with
    | nil => rfl
    | cons d rest => exact List.dropWhile_cons_of_neg (by simp [notNext_cons_iff.1 hbehind])

theorem tails_many_nil : (Node.many chars).tails [] = [[]] :=
  rfl

theorem tails_many_cons : (Node.many chars).tails (c :: rest) =
    if chars.contains c then (Node.many chars).tails rest ++ [c :: rest] else [c :: rest] := by
  by_cases hc : chars.contains c = true
  · simp [Node.many, Node.tails, times, upTo, oneOf, prefer, hc]
  · simp [Node.many, Node.tails, times, upTo, oneOf, prefer, hc]

theorem tails_many1_nil : (Node.many1 chars).tails [] = [] :=
  rfl

theorem tails_many1_cons : (Node.many1 chars).tails (c :: rest) =
    if chars.contains c then (Node.many chars).tails rest else [] := by
  by_cases hc : chars.contains c = true
  · simp [Node.many, Node.many1, Node.tails, times, oneOf, hc]
  · simp [Node.many1, Node.tails, times, oneOf, hc]

theorem tails_optional : (Node.optional node).tails rest = node.tails rest ++ [rest] := by
  simp [Node.optional, Node.tails, times, upTo, prefer]

/-- A run of characters goes on as long as it can. -/
theorem head?_tails_many : ((Node.many chars).tails rest).head? =
    some (rest.dropWhile chars.contains) := by
  induction rest with
  | nil => rfl
  | cons c rest ih =>
    rw [tails_many_cons, List.dropWhile_cons]
    by_cases hc : chars.contains c = true
    · simp [hc, ih]
    · simp [hc]

/-- What begins with no character of the set matches behind the whole run or not at all. -/
theorem flatMap_tails_many {f : Text → List Text}
    (hf : ∀ c rest, chars.contains c = true → f (c :: rest) = []) :
    ((Node.many chars).tails rest).flatMap f = f (rest.dropWhile chars.contains) := by
  induction rest with
  | nil => simp [tails_many_nil]
  | cons c rest ih =>
    rw [tails_many_cons, List.dropWhile_cons]
    by_cases hc : chars.contains c = true
    · simp [hc, ih, hf c rest hc]
    · simp [hc]

/-- A match of a run holds characters of the set. -/
theorem exists_of_mem_tails_many (hmem : behind ∈ (Node.many chars).tails rest) :
    ∃ text, rest = text ++ behind ∧ ∀ c ∈ text, chars.contains c = true := by
  induction rest with
  | nil =>
    obtain rfl := List.mem_singleton.1 hmem
    exact ⟨[], rfl, by simp⟩
  | cons c rest ih =>
    rw [tails_many_cons] at hmem
    by_cases hc : chars.contains c = true
    · rw [if_pos hc, List.mem_append, List.mem_singleton] at hmem
      rcases hmem with hmem | rfl
      · obtain ⟨text, rfl, htext⟩ := ih hmem
        exact ⟨c :: text, rfl, List.forall_mem_cons.2 ⟨hc, htext⟩⟩
      · exact ⟨[], rfl, by simp⟩
    · rw [if_neg hc, List.mem_singleton] at hmem
      exact ⟨[], by simp [hmem], by simp⟩

theorem exists_of_mem_tails_many1 (hmem : behind ∈ (Node.many1 chars).tails rest) :
    ∃ text, rest = text ++ behind ∧ text ≠ [] ∧ ∀ c ∈ text, chars.contains c = true := by
  cases rest with
  | nil => simp [tails_many1_nil] at hmem
  | cons c rest =>
    rw [tails_many1_cons] at hmem
    by_cases hc : chars.contains c = true
    · rw [if_pos hc] at hmem
      obtain ⟨text, rfl, htext⟩ := exists_of_mem_tails_many hmem
      exact ⟨c :: text, rfl, List.cons_ne_nil c text, List.forall_mem_cons.2 ⟨hc, htext⟩⟩
    · simp [hc] at hmem

/-! ## §2. First matches -/

theorem matches_many_iff : (Node.many chars).Matches text behind ↔
    (∀ c ∈ text, chars.contains c = true) ∧ NotNext chars.contains behind := by
  rw [Node.Matches, head?_tails_many, Option.some.injEq, dropWhile_append_eq_iff]

theorem matches_many1_iff : (Node.many1 chars).Matches text behind ↔
    text ≠ [] ∧ (∀ c ∈ text, chars.contains c = true) ∧ NotNext chars.contains behind := by
  cases text with
  | nil =>
    simp only [ne_eq, not_true_eq_false, false_and, iff_false]
    intro hmatches
    obtain ⟨text, htext, hne, _⟩ := exists_of_mem_tails_many1 (List.mem_of_mem_head? hmatches)
    exact hne (by simpa using htext)
  | cons c text =>
    rw [Node.Matches, List.cons_append, tails_many1_cons]
    by_cases hc : chars.contains c = true
    · simp [hc, head?_tails_many, dropWhile_append_eq_iff]
    · simp [hc]

/-- What consumes something does not match the empty text. -/
theorem not_matches_nil (hconsumes : node.consumes = true) : ¬ node.Matches [] behind := by
  intro hmatches
  have hlt := Node.length_lt_of_consumes hconsumes (List.mem_of_mem_head? hmatches)
  rw [List.nil_append] at hlt
  exact Nat.lt_irrefl _ hlt

theorem matches_concat_set_cons_iff : (Node.concat (.set chars) node).Matches (c :: text) behind ↔
    chars.contains c = true ∧ node.Matches text behind := by
  unfold Node.Matches
  by_cases hc : chars.contains c = true
  · simp [Node.tails, oneOf, hc]
  · simp [Node.tails, oneOf, hc]

theorem matches_concat_char_cons_iff {d : Char} :
    (Node.concat (.literal [d]) node).Matches (c :: text) behind ↔
      d = c ∧ node.Matches text behind := by
  unfold Node.Matches
  by_cases hd : d = c
  · simp [Node.tails, Text.after?, hd]
  · simp [Node.tails, Text.after?, hd]

/-- A run with a character behind it that is not in the set. -/
theorem matches_many_char_iff {d : Char} (hd : chars.contains d = false) :
    (Node.concat (.many chars) (.literal [d])).Matches text behind ↔
      ∃ run, text = run ++ [d] ∧ ∀ c ∈ run, chars.contains c = true := by
  have hnone (c : Char) (rest : Text) (hc : chars.contains c = true) :
      (Node.literal [d]).tails (c :: rest) = [] := by
    have hne : d ≠ c := by
      rintro rfl
      simp [hc] at hd
    simp [Node.tails, Text.after?, hne]
  -- So the character is looked for behind the longest run only.
  rw [Node.Matches, Node.tails, flatMap_tails_many hnone]
  constructor
  · intro h
    have hafter := Text.after?_eq_some_iff.1 (Option.mem_toList.1 (List.mem_of_mem_head? h))
    have hsplit := List.takeWhile_append_dropWhile (p := chars.contains) (l := text ++ behind)
    rw [hafter, ← List.append_assoc] at hsplit
    exact ⟨_, (List.append_cancel_right hsplit).symm, fun c hmem => List.mem_takeWhile_imp hmem⟩
  · rintro ⟨run, rfl, hrun⟩
    have hdrop : (run ++ d :: behind).dropWhile chars.contains = d :: behind :=
      dropWhile_append_eq_iff.2 ⟨hrun, notNext_cons_iff.2 hd⟩
    rw [List.append_assoc, List.singleton_append, hdrop]
    simp [Node.tails, Text.after?]

theorem matches_concat_many1_cons_iff :
    (Node.concat (.many1 chars) node).Matches (c :: text) behind ↔
      chars.contains c = true ∧ (Node.concat (.many chars) node).Matches text behind := by
  unfold Node.Matches
  rw [List.cons_append, Node.tails, tails_many1_cons]
  by_cases hc : chars.contains c = true
  · simp [hc, Node.tails]
  · simp [hc]

/-- The first match of two parts, if the first match of the first one goes on with a match of the
second. -/
theorem Node.Matches.concat {text' : Text} (h₁ : first.Matches text (text' ++ behind))
    (h₂ : second.Matches text' behind) :
    (Node.concat first second).Matches (text ++ text') behind := by
  unfold Node.Matches at h₁ h₂ ⊢
  -- The matches of the first part that come later are behind the one that is wanted.
  obtain ⟨more, hmore⟩ := List.head?_eq_some_iff.1 h₁
  rw [List.append_assoc, Node.tails, hmore, List.flatMap_cons, List.head?_append, h₂]
  rfl

theorem Node.Matches.alt_left (h : first.Matches text behind) :
    (Node.alt first second).Matches text behind := by
  unfold Node.Matches at h ⊢
  rw [Node.tails, List.head?_append, h]
  rfl

theorem Node.Matches.alt_right (hnone : first.tails (text ++ behind) = [])
    (h : second.Matches text behind) : (Node.alt first second).Matches text behind := by
  unfold Node.Matches at h ⊢
  rw [Node.tails, hnone, List.nil_append, h]

theorem Node.Matches.optional (h : node.Matches text behind) :
    (Node.optional node).Matches text behind := by
  unfold Node.Matches at h ⊢
  rw [tails_optional, List.head?_append, h]
  rfl

theorem matches_optional_nil (hnone : node.tails behind = []) :
    (Node.optional node).Matches [] behind := by
  rw [Node.Matches, List.nil_append, tails_optional, hnone]
  rfl

theorem matches_literal : (Node.literal text).Matches text behind := by
  have hafter : Text.after? text (text ++ behind) = some behind := Text.after?_eq_some_iff.2 rfl
  rw [Node.Matches, Node.tails, hafter]
  rfl

/-- A literal has no match where the text goes on with another character. -/
theorem tails_literal_cons_of_ne {d : Char} (hne : c ≠ d) :
    (Node.literal (c :: text)).tails (d :: rest) = [] := by
  simp [Node.tails, Text.after?, hne]

theorem tails_concat_of_nil (hnone : first.tails rest = []) :
    (Node.concat first second).tails rest = [] := by
  rw [Node.tails, hnone]
  rfl

end Backtrack.Regex
