import Backtrack.Proofs.Expression.Patterns

/-! # Numbers of the expression language

    The patterns take digits of all scripts, and reading takes those of
    ASCII. A whole number is read exactly if its digits are of ASCII and its
    value is in range; a decimal that can be read has characters of ASCII
    only. -/

namespace Backtrack

/-! ## §1. Whole numbers -/

namespace Numeral

/-- More digits make no value smaller. -/
theorem le_foldl_digits (digits : List Char) (value : Nat) :
    value ≤ digits.foldl (fun value digit => value * 10 + (digit.toNat - '0'.toNat)) value := by
  induction digits generalizing value with
  | nil => exact Nat.le_refl value
  | cons c digits ih =>
    have hle := ih (value * 10 + (c.toNat - '0'.toNat))
    rw [List.foldl_cons]
    omega

/-- Digits read onto a value that is not negative. Every value on the way is at most the last, so
it is enough that the last is in range. -/
theorem readDigits_eq_ok_iff {range : WordRange} (hleast : range.least ≤ 0) {digits : List Char}
    {value : Nat} {n : Int} (hvalue : (value : Int) ≤ range.greatest) :
    readDigits range false value digits = .ok n ↔
      (∀ c ∈ digits, c.isDigit = true) ∧
        n = (digits.foldl (fun value digit => value * 10 + (digit.toNat - '0'.toNat)) value : Nat) ∧
        n ≤ range.greatest := by
  induction digits generalizing value with
  | nil =>
    simp only [readDigits, Except.ok.injEq, List.foldl_nil]
    constructor
    · rintro rfl
      exact ⟨by simp, rfl, hvalue⟩
    · rintro ⟨_, rfl, _⟩
      rfl
  | cons c digits ih =>
    by_cases hc : c.isDigit = true
    · have hdigit := Expression.isDigit_iff.1 hc
      have hcast : (value : Int) * 10 + ((c.toNat : Int) - ('0'.toNat : Int)) =
          (value * 10 + (c.toNat - '0'.toNat) : Nat) := by
        have hzero : '0'.toNat = 48 := rfl
        rw [hzero]
        omega
      simp only [readDigits, hc, if_true, Bool.false_eq_true, if_false, hcast, List.foldl_cons,
        List.forall_mem_cons, true_and]
      have hle := le_foldl_digits digits (value * 10 + (c.toNat - '0'.toNat))
      generalize value * 10 + (c.toNat - '0'.toNat) = next at hle ⊢
      by_cases hlarge : range.greatest < (next : Int)
      · -- Reading stops here, and the value of all digits would be no smaller.
        simp only [if_pos hlarge, reduceCtorEq, false_iff]
        rintro ⟨_, rfl, hn⟩
        omega
      · rw [if_neg hlarge, if_neg (by omega)]
        exact ih (by omega)
    · simp [readDigits, hc]

/-- A text of digits has no sign in front. -/
theorem readWhole_of_digits (range : WordRange) {text : List Char} (hne : text ≠ [])
    (hdigits : ∀ c ∈ text, Text.isDecimalDigit c = true) :
    readWhole range text = readDigits range false 0 text := by
  cases text with
  | nil => exact absurd rfl hne
  | cons c text =>
    have hc := hdigits c List.mem_cons_self
    have hplus : c ≠ '+' := by
      rintro rfl
      exact absurd hc (by decide)
    have hminus : c ≠ '-' := by
      rintro rfl
      exact absurd hc (by decide)
    simp [readWhole, hplus, hminus]

/-- A text of digits is read as its value if that is in range and the digits are of ASCII. -/
theorem readWhole_eq_ok_iff_of_range {range : WordRange} (hleast : range.least ≤ 0)
    (hgreatest : 0 ≤ range.greatest) {text : List Char} {n : Int} (hne : text ≠ [])
    (hdigits : ∀ c ∈ text, Text.isDecimalDigit c = true) :
    readWhole range text = .ok n ↔
      (∀ c ∈ text, c.isDigit = true) ∧ n = Decimal.valueOf text ∧ n ≤ range.greatest := by
  rw [readWhole_of_digits range hne hdigits]
  exact @readDigits_eq_ok_iff range hleast text 0 n hgreatest

theorem readWhole_eq_ok_iff {text : List Char} {n : Int} (hne : text ≠ [])
    (hdigits : ∀ c ∈ text, Text.isDecimalDigit c = true) :
    readWhole (.signed 64) text = .ok n ↔
      (∀ c ∈ text, c.isDigit = true) ∧ n = Decimal.valueOf text ∧ n ≤ 2 ^ 63 - 1 :=
  @readWhole_eq_ok_iff_of_range (.signed 64) (by decide) (by decide) text n hne hdigits

end Numeral

/-! ## §2. Decimals -/

namespace Decimal

/-- The character is one of ASCII. -/
def IsAscii (c : Char) : Prop :=
  c.toNat < 128

theorem isAscii_of_isDigit {c : Char} (h : c.isDigit = true) : IsAscii c := by
  have hdigit := Expression.isDigit_iff.1 h
  unfold IsAscii
  omega

/-- A character of ASCII stays one when it is turned into a small letter, and no other becomes
one. -/
theorem isAscii_of_isAscii_toLower {c : Char} (h : IsAscii c.toLower) : IsAscii c := by
  by_cases hupper : c.isUpper = true
  · have hrange := Expression.isUpper_iff.1 hupper
    unfold IsAscii
    omega
  · have hsame : c.toLower = c := by
      simp only [Char.toLower, Char.isUpper, decide_eq_true_eq] at hupper ⊢
      rw [dif_neg hupper]
    rwa [hsame] at h

theorem isAscii_of_spanDigits {text : List Char} {c : Char} (hmem : c ∈ (spanDigits text).1) :
    IsAscii c :=
  isAscii_of_isDigit (List.mem_takeWhile_imp hmem)

theorem append_spanDigits (text : List Char) : (spanDigits text).1 ++ (spanDigits text).2 = text :=
  List.takeWhile_append_dropWhile

/-- A sign is a character of ASCII. -/
theorem isAscii_of_splitSign {text : List Char} (h : ∀ c ∈ (splitSign text).2, IsAscii c) :
    ∀ c ∈ text, IsAscii c := by
  unfold splitSign at h
  split at h
  · exact List.forall_mem_cons.2 ⟨by unfold IsAscii; decide, h⟩
  · exact List.forall_mem_cons.2 ⟨by unfold IsAscii; decide, h⟩
  · exact h

theorem isAscii_of_readExponent {text : List Char} {exponent : Int}
    (h : readExponent? text = some exponent) : ∀ c ∈ text, IsAscii c := by
  cases text with
  | nil => simp
  | cons e rest =>
    simp only [readExponent?] at h
    split at h
    · next he =>
      split at h
      · cases h
      · next hdigits =>
        simp only [Bool.or_eq_true, Bool.not_eq_true', not_or, Bool.not_eq_false,
          List.all_eq_true] at hdigits
        refine List.forall_mem_cons.2 ⟨?_, isAscii_of_splitSign fun c hmem =>
          isAscii_of_isDigit (hdigits.2 c hmem)⟩
        simp only [Bool.or_eq_true, decide_eq_true_eq] at he
        rcases he with rfl | rfl <;> unfold IsAscii <;> decide
    · cases h

theorem isAscii_of_readDigits {text : List Char} {result : Nat × Int}
    (h : readDigits? text = some result) : ∀ c ∈ text, IsAscii c := by
  have hsplit := append_spanDigits text
  have hwhole (c : Char) (hmem : c ∈ (spanDigits text).1) : IsAscii c := isAscii_of_spanDigits hmem
  rw [← hsplit]
  refine List.forall_mem_append.2 ⟨hwhole, ?_⟩
  simp only [readDigits?] at h
  split at h
  · next rest hrest =>
    split at h
    · cases h
    · obtain ⟨exponent, hexponent, _⟩ := Option.bind_eq_some_iff.1 h
      rw [hrest, ← append_spanDigits rest]
      refine List.forall_mem_cons.2 ⟨by unfold IsAscii; decide, List.forall_mem_append.2 ⟨?_, ?_⟩⟩
      · exact fun c hmem => isAscii_of_spanDigits hmem
      · exact isAscii_of_readExponent hexponent
  · split at h
    · cases h
    · obtain ⟨exponent, hexponent, _⟩ := Option.bind_eq_some_iff.1 h
      exact isAscii_of_readExponent hexponent

/-- A decimal that can be read has characters of ASCII only. -/
theorem isAscii_of_read {text : List Char} {x : Float} (h : read text = .ok x) :
    ∀ c ∈ text, IsAscii c := by
  -- Names are compared without regard to capitals, which leaves ASCII to itself.
  have hname {name : List Char} (hascii : name.all (·.toNat < 128) = true) {text : List Char}
      (htext : text.map Char.toLower = name) : ∀ c ∈ text, IsAscii c := by
    intro c hmem
    have hlower : c.toLower ∈ name := htext ▸ List.mem_map_of_mem hmem
    have hlt := List.all_eq_true.1 hascii _ hlower
    exact isAscii_of_isAscii_toLower (by simpa [IsAscii] using hlt)
  have hunsigned {negative : Bool} {text : List Char}
      (h : readUnsigned? negative text = some x) : ∀ c ∈ text, IsAscii c := by
    simp only [readUnsigned?] at h
    split at h
    · next hinfinity =>
      simp only [Bool.or_eq_true, decide_eq_true_eq] at hinfinity
      rcases hinfinity with htext | htext
      · exact hname rfl htext
      · exact hname rfl htext
    · split at h
      · next hnan => exact hname rfl hnan
      · obtain ⟨result, hresult, _⟩ := Option.map_eq_some_iff.1 h
        exact isAscii_of_readDigits hresult
  unfold read at h
  split at h
  · cases h
  · simp only at h
    split at h
    · next y hread =>
      cases h
      exact isAscii_of_splitSign (hunsigned hread)
    · cases h

end Decimal

end Backtrack
