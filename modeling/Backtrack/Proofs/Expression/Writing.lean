import Backtrack.Proofs.Expression.Numbers

/-! # Written expressions

    The texts that an expression can be written as. Nothing in the relation
    speaks of a parser: the round trip (`Proofs.Expression.RoundTrip`) and the
    soundness (`Proofs.Expression.Soundness`) of the grammar are about the same
    texts, and differ only in what may stand in front of an argument.

    * `Written`: the texts of an expression.
    * `Ends`: what can follow a text without becoming part of it.
    * `Written.starts`: what a text of an expression begins with, which cannot
      follow one. -/

namespace Backtrack.Expression

open Regex (NotNext)

/-! ## §1. The texts of an expression -/

/-- An argument of an application, with the text it is written as and the gap in front of that. -/
structure Argument where
  gap : Text
  text : Text
  expression : Expression

/-- The argument as it is written. -/
def Argument.written (part : Argument) : Text :=
  part.gap ++ part.text

/-- The text is one of those that the expression is written as, where `Gap` says what may stand in
front of an argument.

A string is never empty and holds no quotation mark. A whole number is in the digits of ASCII, and
may have zeros in front. A double is what its text is read as. A name that begins like a double is
no expression by itself, while an application may have any name. -/
inductive Written (Gap : Text → Prop) : Expression → Text → Prop where
  | string {content : Text} : content ≠ [] → '"' ∉ content →
      Written Gap (.string content) ('"' :: content ++ ['"'])
  | integer {text : Text} : text ≠ [] → (∀ c ∈ text, c.isDigit = true) →
      (Decimal.valueOf text : Int) ≤ 2 ^ 63 - 1 →
      Written Gap (.integer (Decimal.valueOf text)) text
  | double {text : Text} {x : Float} : IsDouble Char.isDigit text → Decimal.read text = .ok x →
      Written Gap (.double x) text
  | identifier {name : Text} : IsName name → ¬ "NaN".toList <+: name →
      ¬ "Infinity".toList <+: name → Written Gap (.identifier name) name
  | application {front name back : Text} {parts : List Argument} :
      IsBlank front → IsName name → IsBlank back → (∀ part ∈ parts, Gap part.gap) →
      (∀ part ∈ parts, Written Gap part.expression part.text) →
      Written Gap (.application name (parts.map Argument.expression))
        ('(' :: front ++ name ++ parts.flatMap Argument.written ++ back ++ [')'])

/-- White space that is there. -/
def IsSpace (text : Text) : Prop :=
  text ≠ [] ∧ IsBlank text

/-! ## §2. Where a text begins and ends -/

/-- A character at which an expression can begin, or go on. -/
def IsStart (c : Char) : Prop :=
  Text.isBlank c = false ∧ c ≠ ')'

/-- The text begins as one of an expression does. -/
def Starts (text : Text) : Prop :=
  ∃ c rest, text = c :: rest ∧ IsStart c

/-- An expression in front of this text does not go on with it. -/
def Ends (behind : Text) : Prop :=
  ∀ c ∈ behind.head?, ¬ IsStart c

section Characters

variable {c : Char} {text name rest behind : Text}

theorem ends_nil : Ends [] := by
  simp [Ends]

theorem ends_cons_iff : Ends (c :: rest) ↔ ¬ IsStart c := by
  simp [Ends]

theorem Starts.ne_nil (h : Starts text) : text ≠ [] := by
  obtain ⟨c, more, rfl, _⟩ := h
  exact List.cons_ne_nil c more

theorem Starts.append (h : Starts text) : Starts (text ++ rest) := by
  obtain ⟨c, more, rfl, hc⟩ := h
  exact ⟨c, more ++ rest, rfl, hc⟩

/-- White space ends in front of an expression. -/
theorem Starts.notNext_isBlank (h : Starts text) : NotNext Text.isBlank text := by
  obtain ⟨c, more, rfl, hc⟩ := h
  exact Regex.notNext_cons_iff.2 hc.1

theorem not_isStart_of_isBlank (h : Text.isBlank c = true) : ¬ IsStart c := by
  rintro ⟨hblank, _⟩
  rw [h] at hblank
  cases hblank

theorem isStart_of_ascii (hlow : 41 < c.toNat) (hhigh : c.toNat < 128) : IsStart c := by
  refine ⟨Bool.eq_false_iff.2 fun h => ?_, ?_⟩
  · -- The white space of ASCII lies below the parentheses, and the rest of it is not of ASCII.
    simp only [Text.isBlank, Text.blankRanges, Text.CodeRanges.has, List.any_cons, List.any_nil,
      Bool.or_eq_true, Bool.and_eq_true, decide_eq_true_eq, Bool.false_eq_true, or_false] at h
    omega
  · rintro rfl
    exact absurd hlow (by decide)

/-- What a name goes on with. -/
theorem isStart_of_isNameRest (h : (c.isAlphanum || c = '_') = true) : IsStart c := by
  have hline : c = '_' ↔ c.toNat = 95 := Char.toNat_inj.symm
  simp only [Char.isAlphanum, Char.isAlpha, Bool.or_eq_true, decide_eq_true_eq, isUpper_iff,
    isLower_iff, isDigit_iff, hline] at h
  exact isStart_of_ascii (by omega) (by omega)

/-- What a name begins with. -/
theorem isStart_of_isNameStart (h : (c.isAlpha || c = '_') = true) : IsStart c := by
  apply isStart_of_isNameRest
  simp only [Char.isAlphanum, Bool.or_eq_true] at h ⊢
  exact h.imp_left .inl

/-- Ranges that lie apart have no character in common. -/
theorem has_eq_false_of_apart {ranges others : Text.CodeRanges}
    (hapart : ∀ range ∈ ranges, ∀ other ∈ others, range.2 < other.1 ∨ other.2 < range.1)
    (h : ranges.has c = true) : others.has c = false := by
  obtain ⟨range, hrange, hin⟩ := List.any_eq_true.1 h
  apply List.any_eq_false.2
  intro other hother hin'
  simp only [Bool.and_eq_true, decide_eq_true_eq] at hin hin'
  have h := hapart range hrange other hother
  omega

/-- No digit of any script is white space. -/
theorem isStart_of_isDecimalDigit (h : Text.isDecimalDigit c = true) : IsStart c := by
  refine ⟨has_eq_false_of_apart (by decide) h, ?_⟩
  rintro rfl
  exact absurd h (by decide)

/-- No name begins with a digit of any script. -/
theorem not_isNameStart_of_isDecimalDigit (h : Text.isDecimalDigit c = true) :
    (c.isAlpha || c = '_') = false := by
  rw [← contains_nameStart]
  exact has_eq_false_of_apart (by decide) h

theorem isDecimalDigit_of_isDigit (h : c.isDigit = true) : Text.isDecimalDigit c = true := by
  refine List.any_eq_true.2 ⟨(48, 57), by decide, ?_⟩
  simpa [isDigit_iff] using h

/-- The digits of ASCII are the digits that are of ASCII. -/
theorem isDigit_of_isDecimalDigit (h : Text.isDecimalDigit c = true) (hascii : Decimal.IsAscii c) :
    c.isDigit = true := by
  have hranges : ∀ range ∈ Text.decimalDigitRanges, range = (48, 57) ∨ 128 ≤ range.1 := by decide
  obtain ⟨range, hrange, hin⟩ := List.any_eq_true.1 h
  simp only [Bool.and_eq_true, decide_eq_true_eq] at hin
  unfold Decimal.IsAscii at hascii
  rcases hranges range hrange with rfl | hlarge
  · exact isDigit_iff.2 hin
  · omega

/-- Nothing that an expression can begin with follows it. -/
theorem Ends.notNext {p : Char → Bool} (h : Ends behind) (hp : ∀ c, p c = true → IsStart c) :
    NotNext p behind :=
  fun c hmem => Bool.eq_false_iff.2 fun hc => h c hmem (hp c hc)

/-- A word that stands where a name ends with the word unfinished is not there. -/
theorem prefix_of_append_eq {word : Text} (h : Ends behind) (hword : ∀ c ∈ word, IsStart c)
    (heq : word ++ rest = name ++ behind) : word <+: name := by
  rcases List.append_eq_append_iff.1 heq with ⟨more, rfl, _⟩ | ⟨more, rfl, rfl⟩
  · exact List.prefix_append word more
  · cases more with
    | nil => simp
    | cons c more =>
      exact absurd (hword c (by simp)) (h c (by simp))

/-! ## §3. The texts of names and decimals -/

theorem IsName.exists_cons (h : IsName name) :
    ∃ c rest, name = c :: rest ∧ (c.isAlpha || c = '_') = true :=
  let ⟨c, rest, hname, hc, _⟩ := h
  ⟨c, rest, hname, hc⟩

theorem IsMantissa.exists_cons {digit : Char → Bool} (h : IsMantissa digit text) :
    ∃ c rest, text = c :: rest ∧ (digit c = true ∨ c = '.') := by
  cases h with
  | fraction _ _ => exact ⟨'.', _, rfl, .inr rfl⟩
  | @whole whole places hne hwhole _ =>
    obtain ⟨c, rest, rfl⟩ := List.exists_cons_of_ne_nil hne
    exact ⟨c, _, rfl, .inl (hwhole c List.mem_cons_self)⟩

theorem IsMantissa.imp {p q : Char → Bool} (h : IsMantissa p text)
    (himp : ∀ c ∈ text, p c = true → q c = true) : IsMantissa q text := by
  cases h with
  | fraction hne hplaces =>
    exact .fraction hne fun c hmem => himp c (by simp [hmem]) (hplaces c hmem)
  | whole hne hwhole hplaces =>
    exact .whole hne (fun c hmem => himp c (by simp [hmem]) (hwhole c hmem))
      fun c hmem => himp c (by simp [hmem]) (hplaces c hmem)

theorem IsExponent.imp {p q : Char → Bool} (h : IsExponent p text)
    (himp : ∀ c ∈ text, p c = true → q c = true) : IsExponent q text := by
  cases h with
  | none => exact .none
  | some he hsign hne hplaces =>
    exact .some he hsign hne fun c hmem => himp c (by simp [hmem]) (hplaces c hmem)

/-- A decimal is one in other digits if its own are among those. -/
theorem IsDouble.imp {p q : Char → Bool} (h : IsDouble p text)
    (himp : ∀ c ∈ text, p c = true → q c = true) : IsDouble q text := by
  cases h with
  | number hsign hmantissa hexponent =>
    exact .number hsign (hmantissa.imp fun c hmem => himp c (by simp [hmem]))
      (hexponent.imp fun c hmem => himp c (by simp [hmem]))
  | name hsign hname => exact .name hsign hname

/-- A decimal begins with a digit, a point, a minus or the first letter of a name. -/
theorem IsDouble.exists_cons {digit : Char → Bool} (h : IsDouble digit text) :
    ∃ c rest, text = c :: rest ∧ (digit c = true ∨ c ∈ ['.', '-', 'I', 'N']) := by
  cases h with
  | number hsign hmantissa _ =>
    rcases hsign with rfl | rfl
    · obtain ⟨c, rest, rfl, hdigit | rfl⟩ := hmantissa.exists_cons
      · exact ⟨c, _, rfl, .inl hdigit⟩
      · exact ⟨'.', _, rfl, .inr (by decide)⟩
    · exact ⟨'-', _, rfl, .inr (by decide)⟩
  | name hsign hname =>
    rcases hsign with rfl | rfl
    · rcases hname with rfl | rfl
      · exact ⟨'I', _, rfl, .inr (by decide)⟩
      · exact ⟨'N', _, rfl, .inr (by decide)⟩
    · exact ⟨'-', _, rfl, .inr (by decide)⟩

/-- Every text of an expression begins where an expression can. -/
theorem Written.starts {Gap : Text → Prop} {expression : Expression}
    (h : Written Gap expression text) : Starts text := by
  cases h with
  | string _ _ => exact ⟨'"', _, rfl, by decide, by decide⟩
  | integer hne hdigits _ =>
    obtain ⟨c, rest, rfl⟩ := List.exists_cons_of_ne_nil hne
    have hc := isDecimalDigit_of_isDigit (hdigits c List.mem_cons_self)
    exact ⟨c, rest, rfl, isStart_of_isDecimalDigit hc⟩
  | double hdouble _ =>
    obtain ⟨c, rest, rfl, hdigit | hmark⟩ := hdouble.exists_cons
    · exact ⟨c, rest, rfl, isStart_of_isDecimalDigit (isDecimalDigit_of_isDigit hdigit)⟩
    · refine ⟨c, rest, rfl, ?_⟩
      simp only [List.mem_cons, List.not_mem_nil, or_false] at hmark
      rcases hmark with rfl | rfl | rfl | rfl
      · exact isStart_of_ascii (by decide) (by decide)
      · exact isStart_of_ascii (by decide) (by decide)
      · exact isStart_of_isNameStart rfl
      · exact isStart_of_isNameStart rfl
  | identifier hname _ _ =>
    obtain ⟨c, rest, rfl, hc⟩ := hname.exists_cons
    exact ⟨c, rest, rfl, isStart_of_isNameStart hc⟩
  | application _ _ _ _ _ => exact ⟨'(', _, rfl, by decide, by decide⟩

end Characters

end Backtrack.Expression
