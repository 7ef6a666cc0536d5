import Backtrack.Proofs.Text.Cut
import Backtrack.Text.Blank
import Backtrack.Text.Lowercase

/-! # Lower case and blanks

    Which case the ASCII letters of a text are in shows neither in its lower
    case nor in where its blanks are, although a final sigma depends on the
    characters around it.

    * `lowercase_map_toLower`: lower case.
    * `length_lowercase`: its length, in which only a dotted capital I shows.
    * `lowercase_trim_ne`: a text with blanks at an end does not have the
      lower case that it has without them. -/

namespace Backtrack.Text

/-! ## §1. ASCII letters -/

/-- What does not tell capital letters of ASCII from small ones does not see them lowered. -/
theorem apply_toLower {β : Type} {f : Char → β}
    (hf : ∀ n < 26, f (Char.ofNat (n + 97)) = f (Char.ofNat (n + 65))) (c : Char) :
    f c.toLower = f c := by
  -- Only the 26 capital letters are lowered at all.
  by_cases h : 65 ≤ c.toNat ∧ c.toNat ≤ 90
  · have hlower : ∀ n < 26, (Char.ofNat (n + 65)).toLower = Char.ofNat (n + 97) := by decide
    have hc : c = Char.ofNat (c.toNat - 65 + 65) := by
      rw [Nat.sub_add_cancel h.1, Char.ofNat_toNat]
    rw [hc, hlower _ (by omega), hf _ (by omega)]
  · have hc : c.toLower = c := dif_neg fun hupper => h ⟨hupper.1, hupper.2⟩
    rw [hc]

variable (c : Char) (text before after : List Char)

theorem isBlank_toLower : isBlank c.toLower = isBlank c :=
  apply_toLower (by decide) c

theorem caseIgnorable_toLower : caseIgnorableRanges.has c.toLower = caseIgnorableRanges.has c :=
  apply_toLower (by decide +kernel) c

theorem cased_toLower : casedRanges.has c.toLower = casedRanges.has c :=
  apply_toLower (by decide) c

theorem image_toLower : CaseRow.image lowercaseRows c.toLower = CaseRow.image lowercaseRows c :=
  apply_toLower (by decide) c

theorem toLower_eq_sigma_iff : c.toLower = 'Σ' ↔ c = 'Σ' :=
  decide_eq_decide.1 (apply_toLower (f := fun c => decide (c = 'Σ')) (by decide) c)

theorem toLower_eq_dotted_iff : c.toLower = 'İ' ↔ c = 'İ' :=
  decide_eq_decide.1 (apply_toLower (f := fun c => decide (c = 'İ')) (by decide) c)

/-! ## §2. Lower case -/

theorem meetsCased_map_toLower : meetsCased (text.map Char.toLower) = meetsCased text := by
  have hignored : caseIgnorableRanges.has ∘ Char.toLower = caseIgnorableRanges.has :=
    funext caseIgnorable_toLower
  unfold meetsCased
  rw [List.dropWhile_map, hignored]
  cases text.dropWhile caseIgnorableRanges.has with
  | nil => rfl
  | cons c rest => exact cased_toLower c

theorem lowercaseAt_toLower :
    lowercaseAt (before.map Char.toLower) c.toLower (after.map Char.toLower) =
      lowercaseAt before c after := by
  simp only [lowercaseAt, meetsCased_map_toLower, image_toLower, toLower_eq_sigma_iff,
    toLower_eq_dotted_iff]

theorem lowercaseAfter_map_toLower :
    lowercaseAfter (before.map Char.toLower) (text.map Char.toLower) =
      lowercaseAfter before text := by
  induction text generalizing before with
  | nil => rfl
  | cons c after ih =>
    simp only [List.map_cons, lowercaseAfter, lowercaseAt_toLower]
    rw [← List.map_cons, ih]

/-- **The case of ASCII letters does not show in lower case.** -/
theorem lowercase_map_toLower : lowercase (text.map Char.toLower) = lowercase text :=
  lowercaseAfter_map_toLower text []

/-- A character has a lower case of one character, and a dotted capital I has one of two. -/
theorem length_lowercaseAfter :
    (lowercaseAfter before text).length = text.length + text.count 'İ' := by
  induction text generalizing before with
  | nil => rfl
  | cons c after ih =>
    have hat : (lowercaseAt before c after).length = if c = 'İ' then 2 else 1 := by
      unfold lowercaseAt
      split
      · next hc =>
        subst hc
        split <;> rfl
      · split <;> rfl
    simp only [lowercaseAfter, List.length_append, hat, ih, List.length_cons, List.count_cons,
      beq_iff_eq]
    split <;> omega

theorem length_lowercase : (lowercase text).length = text.length + text.count 'İ' :=
  length_lowercaseAfter text []

/-! ## §3. Blanks -/

theorem trim_map_toLower : trim (text.map Char.toLower) = (trim text).map Char.toLower := by
  have hblank : isBlank ∘ Char.toLower = isBlank := funext isBlank_toLower
  simp only [trim, trimStart, trimEnd, List.dropWhile_map, hblank, ← List.map_reverse]

theorem trim_sublist : (trim text).Sublist text := by
  have hend : (trimEnd (trimStart text)).Sublist (trimStart text) := by
    rw [← List.reverse_sublist]
    simpa only [trimEnd, List.reverse_reverse] using List.dropWhile_sublist isBlank
  exact hend.trans (List.dropWhile_sublist isBlank)

variable {text}

/-- A text has no blanks at its ends if there are none in another case. -/
theorem trim_eq_self_iff {other : List Char}
    (h : text.map Char.toLower = other.map Char.toLower) :
    trim text = text ↔ trim other = other := by
  have hlength : text.length = other.length := by simpa using congrArg List.length h
  have htrim : (trim text).length = (trim other).length := by
    have hmap := congrArg List.length (congrArg trim h)
    simpa only [trim_map_toLower, List.length_map] using hmap
  have hself (text : List Char) : trim text = text ↔ (trim text).length = text.length :=
    ⟨congrArg List.length, (trim_sublist text).eq_of_length⟩
  rw [hself, hself, hlength, htrim]

/-- **A text that has blanks at an end has another lower case without them.** -/
theorem lowercase_trim_ne (h : trim text ≠ text) : lowercase (trim text) ≠ lowercase text := by
  -- The blanks make it longer, and the dotted letters without them are among those with them.
  intro hsame
  have hlength := congrArg List.length hsame
  rw [length_lowercase, length_lowercase] at hlength
  have hle := (trim_sublist text).length_le
  have hcount := (trim_sublist text).count_le 'İ'
  exact h ((trim_sublist text).eq_of_length (by omega))

end Backtrack.Text
