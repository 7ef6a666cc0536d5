import Mathlib
import Backtrack.Expression.Terminal
import Backtrack.Proofs.Regex.Greedy

/-! # Tokens

    What the patterns of the expression language find. The source of each of
    them is read as an expression once (§1), and from there on a pattern is
    what its first match is: an equivalence for each token, except for the
    decimals, whose match depends on what follows in one direction only.

    * `identifierPattern_findAt` and its kind: a token and what may follow it.
    * `doublePattern_sound`, `doublePattern_complete`: decimals. -/

namespace Backtrack.Expression

open Regex (Node CharSet NotNext)

/-! ## §1. Expressions of the patterns -/

/-- The digits of all scripts. -/
def digits : CharSet := ⟨Text.decimalDigitRanges⟩

/-- The white-space characters. -/
def blanks : CharSet := ⟨Text.blankRanges⟩

/-- What a name starts with. -/
def nameStart : CharSet := ⟨[(65, 90), (95, 95), (97, 122)]⟩

/-- What a name goes on with. -/
def nameRest : CharSet := ⟨[(48, 57), (65, 90), (95, 95), (97, 122)]⟩

/-- All characters but the quotation mark. -/
def unquoted : CharSet := ⟨[(0, 33), (35, 1114111)]⟩

/-- The letters that an exponent starts with. -/
def exponentMark : CharSet := ⟨[(69, 69), (101, 101)]⟩

def stringNode : Node :=
  .concat (.literal ['"']) (.concat (.group 1 (.many1 unquoted)) (.literal ['"']))

def integerNode : Node := .many1 digits

def identifierNode : Node := .concat (.set nameStart) (.many nameRest)

def openNode : Node := .concat (.literal ['(']) (.many blanks)

def closeNode : Node := .concat (.many blanks) (.literal [')'])

def blanksNode : Node := .many blanks

/-- Digits behind a point. -/
def fractionNode : Node := .concat (.literal ['.']) (.many1 digits)

/-- Digits, a point, and perhaps more digits. -/
def wholeNode : Node :=
  .concat (.many1 digits) (.concat (.literal ['.']) (.many digits))

def exponentNode : Node :=
  .concat (.set exponentMark) (.concat (.optional (.literal ['-'])) (.many1 digits))

def doubleNode : Node :=
  .concat (.optional (.literal ['-']))
    (.group 1
      (.alt
        (.group 2
          (.concat (.group 3 (.alt fractionNode wholeNode))
            (.optional (.group 4 exponentNode))))
        (.alt (.literal "Infinity".toList) (.literal "NaN".toList))))

/-- A pattern holds the program of its source. -/
theorem anchored_of_read? {source : Text} {node : Node}
    (hsome : (Pattern.compile? source).isSome = true) (hread : Node.read? {} source = some node) :
    ((Pattern.compile? source).get hsome).anchored = some node.program := by
  obtain ⟨pattern, hpattern⟩ := Option.isSome_iff_exists.1 hsome
  rw [Option.get_of_eq_some hsome hpattern]
  obtain ⟨regex, hregex, rfl⟩ := Option.map_eq_some_iff.1 hpattern
  simp only [Regex.compile?, hread, Option.bind_eq_bind, Option.bind_some] at hregex
  split at hregex
  · cases hregex
    rfl
  · cases hregex

theorem stringPattern_anchored : stringPattern.anchored = some stringNode.program :=
  anchored_of_read? _ rfl

theorem doublePattern_anchored : doublePattern.anchored = some doubleNode.program :=
  anchored_of_read? _ rfl

theorem integerPattern_anchored : integerPattern.anchored = some integerNode.program :=
  anchored_of_read? _ rfl

theorem identifierPattern_anchored : identifierPattern.anchored = some identifierNode.program :=
  anchored_of_read? _ rfl

theorem openPattern_anchored : openPattern.anchored = some openNode.program :=
  anchored_of_read? _ rfl

theorem closePattern_anchored : closePattern.anchored = some closeNode.program :=
  anchored_of_read? _ rfl

theorem blanksPattern_anchored : blanksPattern.anchored = some blanksNode.program :=
  anchored_of_read? _ rfl

/-! ## §2. Characters -/

theorem isUpper_iff {c : Char} : c.isUpper = true ↔ 65 ≤ c.toNat ∧ c.toNat ≤ 90 := by
  simp only [Char.isUpper, decide_eq_true_eq, ge_iff_le, UInt32.le_iff_toNat_le, Char.toNat_val]
  rfl

theorem isLower_iff {c : Char} : c.isLower = true ↔ 97 ≤ c.toNat ∧ c.toNat ≤ 122 := by
  simp only [Char.isLower, Bool.and_eq_true, decide_eq_true_eq, ge_iff_le,
    UInt32.le_iff_toNat_le, Char.toNat_val]
  rfl

theorem isDigit_iff {c : Char} : c.isDigit = true ↔ 48 ≤ c.toNat ∧ c.toNat ≤ 57 := by
  simp only [Char.isDigit, Bool.and_eq_true, decide_eq_true_eq, ge_iff_le,
    UInt32.le_iff_toNat_le, Char.toNat_val]
  rfl

theorem contains_nameStart (c : Char) : nameStart.contains c = (c.isAlpha || c = '_') := by
  have hline : c = '_' ↔ c.toNat = 95 := Char.toNat_inj.symm
  rw [Bool.eq_iff_iff]
  simp only [nameStart, CharSet.contains, Text.CodeRanges.has, List.any_cons, List.any_nil,
    Char.isAlpha, Bool.or_eq_true, Bool.and_eq_true, decide_eq_true_eq,
    isUpper_iff, isLower_iff, hline, Bool.or_false]
  omega

theorem contains_nameRest (c : Char) : nameRest.contains c = (c.isAlphanum || c = '_') := by
  have hline : c = '_' ↔ c.toNat = 95 := Char.toNat_inj.symm
  rw [Bool.eq_iff_iff]
  simp only [nameRest, CharSet.contains, Text.CodeRanges.has, List.any_cons, List.any_nil,
    Char.isAlphanum, Char.isAlpha, Bool.or_eq_true, Bool.and_eq_true,
    decide_eq_true_eq, isUpper_iff, isLower_iff, isDigit_iff, hline, Bool.or_false]
  omega

theorem contains_unquoted (c : Char) : unquoted.contains c = (c != '"') := by
  have hquote : c = '"' ↔ c.toNat = 34 := Char.toNat_inj.symm
  have hvalid : c.toNat < 1114112 := by
    rcases c.valid with h | h
    · have hlt : c.toNat < 0xD800 := h
      omega
    · exact h.2
  rw [Bool.eq_iff_iff]
  simp only [unquoted, CharSet.contains, Text.CodeRanges.has, List.any_cons, List.any_nil,
    Bool.or_eq_true, Bool.and_eq_true, decide_eq_true_eq, hquote, Bool.or_false,
    bne_iff_ne, ne_eq]
  omega

theorem contains_exponentMark (c : Char) : exponentMark.contains c = (c = 'e' || c = 'E') := by
  have hsmall : c = 'e' ↔ c.toNat = 101 := Char.toNat_inj.symm
  have hlarge : c = 'E' ↔ c.toNat = 69 := Char.toNat_inj.symm
  rw [Bool.eq_iff_iff]
  simp only [exponentMark, CharSet.contains, Text.CodeRanges.has, List.any_cons, List.any_nil,
    Bool.or_eq_true, Bool.and_eq_true, decide_eq_true_eq, hsmall, hlarge,
    Bool.or_false]
  omega

theorem contains_digits : digits.contains = Text.isDecimalDigit :=
  rfl

theorem contains_blanks : blanks.contains = Text.isBlank :=
  rfl

/-! ## §3. Tokens -/

/-- A name: a letter or a line, then letters, digits and lines, all of ASCII. -/
def IsName (name : Text) : Prop :=
  ∃ c word, name = c :: word ∧ (c.isAlpha || c = '_') = true ∧
    ∀ d ∈ word, (d.isAlphanum || d = '_') = true

/-- A text of white space, which may be empty. -/
def IsBlank (text : Text) : Prop :=
  ∀ c ∈ text, Text.isBlank c = true

section Tokens

variable {input text : Text} {index : Nat}

theorem identifierPattern_findAt : identifierPattern.findAt input index = some text ↔
    ∃ behind, input.dropBytes? index = some (text ++ behind) ∧ IsName text ∧
      NotNext (fun c => c.isAlphanum || c = '_') behind := by
  rw [Regex.findAt_eq_some_iff identifierPattern_anchored rfl]
  refine exists_congr fun behind => and_congr_right fun _ => ?_
  cases text with
  | nil =>
    apply iff_of_false (Regex.not_matches_nil rfl)
    rintro ⟨⟨c, word, h, _⟩, _⟩
    cases h
  | cons c word =>
    have hrest : nameRest.contains = fun c => c.isAlphanum || c = '_' :=
      funext contains_nameRest
    rw [identifierNode, Regex.matches_concat_set_cons_iff, Regex.matches_many_iff,
      contains_nameStart, hrest]
    constructor
    · rintro ⟨hc, hword, hbehind⟩
      exact ⟨⟨c, word, rfl, hc, hword⟩, hbehind⟩
    · rintro ⟨⟨_, _, h, hc, hword⟩, hbehind⟩
      cases h
      exact ⟨hc, hword, hbehind⟩

theorem integerPattern_findAt : integerPattern.findAt input index = some text ↔
    ∃ behind, input.dropBytes? index = some (text ++ behind) ∧ text ≠ [] ∧
      (∀ c ∈ text, Text.isDecimalDigit c = true) ∧ NotNext Text.isDecimalDigit behind := by
  rw [Regex.findAt_eq_some_iff integerPattern_anchored rfl]
  simp only [integerNode, Regex.matches_many1_iff, contains_digits]

theorem blanksPattern_findAt : blanksPattern.findAt input index = some text ↔
    ∃ behind, input.dropBytes? index = some (text ++ behind) ∧ IsBlank text ∧
      NotNext Text.isBlank behind := by
  rw [Regex.findAt_eq_some_iff blanksPattern_anchored rfl]
  simp only [blanksNode, Regex.matches_many_iff, contains_blanks, IsBlank]

theorem openPattern_findAt : openPattern.findAt input index = some text ↔
    ∃ behind, input.dropBytes? index = some (text ++ behind) ∧
      (∃ space, text = '(' :: space ∧ IsBlank space) ∧ NotNext Text.isBlank behind := by
  rw [Regex.findAt_eq_some_iff openPattern_anchored rfl]
  refine exists_congr fun behind => and_congr_right fun _ => ?_
  cases text with
  | nil =>
    apply iff_of_false (Regex.not_matches_nil rfl)
    rintro ⟨⟨space, h, _⟩, _⟩
    cases h
  | cons c space =>
    rw [openNode, Regex.matches_concat_char_cons_iff, Regex.matches_many_iff, contains_blanks]
    constructor
    · rintro ⟨rfl, hspace, hbehind⟩
      exact ⟨⟨space, rfl, hspace⟩, hbehind⟩
    · rintro ⟨⟨_, h, hspace⟩, hbehind⟩
      cases h
      exact ⟨rfl, hspace, hbehind⟩

theorem closePattern_findAt : closePattern.findAt input index = some text ↔
    ∃ behind, input.dropBytes? index = some (text ++ behind) ∧
      ∃ space, text = space ++ [')'] ∧ IsBlank space := by
  rw [Regex.findAt_eq_some_iff closePattern_anchored rfl]
  refine exists_congr fun behind => and_congr_right fun _ => ?_
  have hclose : blanks.contains ')' = false := by decide
  rw [closeNode, Regex.matches_many_char_iff hclose]
  rfl

theorem stringPattern_findAt : stringPattern.findAt input index = some text ↔
    ∃ behind, input.dropBytes? index = some (text ++ behind) ∧
      ∃ content, text = '"' :: content ++ ['"'] ∧ content ≠ [] ∧ '"' ∉ content := by
  rw [Regex.findAt_eq_some_iff stringPattern_anchored rfl]
  refine exists_congr fun behind => and_congr_right fun _ => ?_
  cases text with
  | nil =>
    apply iff_of_false (Regex.not_matches_nil rfl)
    rintro ⟨content, h, _⟩
    cases h
  | cons c content =>
    have hquote : unquoted.contains '"' = false := by rw [contains_unquoted]; rfl
    have hunquoted (content : Text) :
        (∀ c ∈ content, unquoted.contains c = true) ↔ '"' ∉ content := by
      simp only [contains_unquoted, bne_iff_ne]
      exact ⟨fun h hmem => h '"' hmem rfl, fun h c hmem heq => h (heq ▸ hmem)⟩
    rw [stringNode, Regex.matches_concat_char_cons_iff]
    show '"' = c ∧ (Node.concat (.many1 unquoted) (.literal ['"'])).Matches content behind ↔ _
    cases content with
    | nil =>
      refine iff_of_false (fun h => Regex.not_matches_nil rfl h.2) ?_
      rintro ⟨content, h, _⟩
      simp at h
    | cons d content =>
      rw [Regex.matches_concat_many1_cons_iff, Regex.matches_many_char_iff hquote]
      constructor
      · rintro ⟨rfl, hd, run, rfl, hrun⟩
        refine ⟨d :: run, rfl, List.cons_ne_nil d run, ?_⟩
        exact (hunquoted (d :: run)).1 (List.forall_mem_cons.2 ⟨hd, hrun⟩)
      · rintro ⟨content, h, hne, hmem⟩
        cases content with
        | nil => exact absurd rfl hne
        | cons e run =>
          cases h
          obtain ⟨hd, hrun⟩ := List.forall_mem_cons.1 ((hunquoted (d :: run)).2 hmem)
          exact ⟨rfl, hd, run, rfl, hrun⟩

end Tokens

/-! ## §4. Decimals -/

/-- A minus or nothing. -/
def IsSign (sign : Text) : Prop :=
  sign = [] ∨ sign = ['-']

/-- An exponent or nothing. -/
inductive IsExponent (digit : Char → Bool) : Text → Prop where
  | none : IsExponent digit []
  | some {e : Char} {sign places : Text} : e = 'e' ∨ e = 'E' → IsSign sign → places ≠ [] →
      (∀ c ∈ places, digit c = true) → IsExponent digit (e :: (sign ++ places))

/-- Digits with a point: at least one of them, and in front of the point if none is behind it. -/
inductive IsMantissa (digit : Char → Bool) : Text → Prop where
  | fraction {places : Text} : places ≠ [] → (∀ c ∈ places, digit c = true) →
      IsMantissa digit ('.' :: places)
  | whole {whole places : Text} : whole ≠ [] → (∀ c ∈ whole, digit c = true) →
      (∀ c ∈ places, digit c = true) → IsMantissa digit (whole ++ '.' :: places)

/-- The names of doubles that are not written in digits. -/
def IsDoubleName (name : Text) : Prop :=
  name = "Infinity".toList ∨ name = "NaN".toList

/-- A decimal: a number with a point, or a name, with a minus or not. -/
inductive IsDouble (digit : Char → Bool) : Text → Prop where
  | number {sign mantissa exponent : Text} : IsSign sign → IsMantissa digit mantissa →
      IsExponent digit exponent → IsDouble digit (sign ++ (mantissa ++ exponent))
  | name {sign name : Text} : IsSign sign → IsDoubleName name → IsDouble digit (sign ++ name)

section Doubles

variable {input text behind rest : Text} {index : Nat}

theorem exists_of_mem_tails_minus
    (hmem : behind ∈ (Node.optional (.literal ['-'])).tails rest) :
    ∃ sign, rest = sign ++ behind ∧ IsSign sign := by
  rw [Regex.tails_optional, List.mem_append, List.mem_singleton] at hmem
  rcases hmem with hmem | rfl
  · exact ⟨['-'], Text.after?_eq_some_iff.1 (Option.mem_toList.1 hmem), .inr rfl⟩
  · exact ⟨[], rfl, .inl rfl⟩

theorem exists_of_mem_tails_mantissa
    (hmem : behind ∈ (Node.alt fractionNode wholeNode).tails rest) :
    ∃ mantissa, rest = mantissa ++ behind ∧ IsMantissa Text.isDecimalDigit mantissa := by
  rcases List.mem_append.1 hmem with hmem | hmem
  · obtain ⟨middle, hmiddle, hbehind⟩ := List.mem_flatMap.1 hmem
    obtain rfl := Text.after?_eq_some_iff.1 (Option.mem_toList.1 hmiddle)
    obtain ⟨places, rfl, hne, hplaces⟩ := Regex.exists_of_mem_tails_many1 hbehind
    exact ⟨'.' :: places, rfl, .fraction hne hplaces⟩
  · obtain ⟨middle, hmiddle, hpoint⟩ := List.mem_flatMap.1 hmem
    obtain ⟨whole, rfl, hne, hwhole⟩ := Regex.exists_of_mem_tails_many1 hmiddle
    obtain ⟨last, hlast, hbehind⟩ := List.mem_flatMap.1 hpoint
    obtain rfl := Text.after?_eq_some_iff.1 (Option.mem_toList.1 hlast)
    obtain ⟨places, rfl, hplaces⟩ := Regex.exists_of_mem_tails_many hbehind
    exact ⟨whole ++ '.' :: places, by simp, .whole hne hwhole hplaces⟩

theorem exists_of_mem_tails_exponent
    (hmem : behind ∈ (Node.optional (.group 4 exponentNode)).tails rest) :
    ∃ exponent, rest = exponent ++ behind ∧ IsExponent Text.isDecimalDigit exponent := by
  rw [Regex.tails_optional, List.mem_append, List.mem_singleton] at hmem
  rcases hmem with hmem | rfl
  · obtain ⟨middle, hmiddle, hsigned⟩ := List.mem_flatMap.1 hmem
    obtain ⟨last, hlast, hbehind⟩ := List.mem_flatMap.1 hsigned
    obtain ⟨sign, rfl, hsign⟩ := exists_of_mem_tails_minus hlast
    obtain ⟨places, rfl, hne, hplaces⟩ := Regex.exists_of_mem_tails_many1 hbehind
    cases rest with
    | nil => simp [Node.tails, Regex.oneOf] at hmiddle
    | cons e rest =>
      by_cases he : exponentMark.contains e = true
      · simp only [Node.tails, Regex.oneOf, if_pos he, List.mem_singleton] at hmiddle
        refine ⟨e :: (sign ++ places), by simp [← hmiddle], .some ?_ hsign hne hplaces⟩
        simpa [contains_exponentMark] using he
      · simp [Node.tails, Regex.oneOf, he] at hmiddle
  · exact ⟨[], rfl, .none⟩

/-- What the pattern of decimals finds is one, with digits of any script. -/
theorem doublePattern_sound (h : doublePattern.findAt input index = some text) :
    IsDouble Text.isDecimalDigit text := by
  obtain ⟨behind, _, hmatches⟩ := (Regex.findAt_eq_some_iff doublePattern_anchored rfl).1 h
  obtain ⟨middle, hmiddle, hmem⟩ := List.mem_flatMap.1 (List.mem_of_mem_head? hmatches)
  obtain ⟨sign, hsplit, hsign⟩ := exists_of_mem_tails_minus hmiddle
  -- A number is tried first, and a name where there is none.
  rcases List.mem_append.1 hmem with hmem | hmem
  · obtain ⟨last, hlast, hbehind⟩ := List.mem_flatMap.1 hmem
    obtain ⟨mantissa, rfl, hmantissa⟩ := exists_of_mem_tails_mantissa hlast
    obtain ⟨exponent, rfl, hexponent⟩ := exists_of_mem_tails_exponent hbehind
    have htext : text = sign ++ (mantissa ++ exponent) :=
      List.append_cancel_right (hsplit.trans (by simp))
    rw [htext]
    exact .number hsign hmantissa hexponent
  · obtain ⟨name, rfl, hname⟩ : ∃ name, middle = name ++ behind ∧ IsDoubleName name := by
      rcases List.mem_append.1 hmem with hmem | hmem
      · exact ⟨_, Text.after?_eq_some_iff.1 (Option.mem_toList.1 hmem), .inl rfl⟩
      · exact ⟨_, Text.after?_eq_some_iff.1 (Option.mem_toList.1 hmem), .inr rfl⟩
    have htext : text = sign ++ name := List.append_cancel_right (hsplit.trans (by simp))
    rw [htext]
    exact .name hsign hname

theorem matches_minus {sign : Text} (hsign : IsSign sign) (hrest : NotNext (· = '-') rest) :
    (Node.optional (.literal ['-'])).Matches sign rest := by
  rcases hsign with rfl | rfl
  · apply Regex.matches_optional_nil
    cases rest with
    | nil => rfl
    | cons c rest =>
      have hne : '-' ≠ c := fun h => by simp [NotNext, ← h] at hrest
      exact Regex.tails_literal_cons_of_ne hne
  · exact Regex.Node.Matches.optional Regex.matches_literal

/-- Digits begin with no minus. -/
theorem notNext_minus_of_digits {places : Text} (hne : places ≠ [])
    (hplaces : ∀ c ∈ places, Text.isDecimalDigit c = true) :
    NotNext (· = '-') (places ++ rest) := by
  cases places with
  | nil => exact absurd rfl hne
  | cons c places =>
    refine Regex.notNext_cons_iff.2 (decide_eq_false ?_)
    rintro rfl
    exact absurd (hplaces '-' List.mem_cons_self) (by decide)

theorem matches_mantissa {mantissa : Text} (h : IsMantissa Text.isDecimalDigit mantissa)
    (hrest : NotNext Text.isDecimalDigit rest) :
    (Node.alt fractionNode wholeNode).Matches mantissa rest := by
  cases h with
  | @fraction places hne hplaces =>
    apply Regex.Node.Matches.alt_left
    exact Regex.matches_concat_char_cons_iff.2
      ⟨rfl, Regex.matches_many1_iff.2 ⟨hne, hplaces, hrest⟩⟩
  | @whole whole places hne hwhole hplaces =>
    -- The alternative that begins with the point has no match at a digit.
    refine Regex.Node.Matches.alt_right ?_ ?_
    · cases whole with
      | nil => exact absurd rfl hne
      | cons c whole =>
        have hpoint : '.' ≠ c := by
          rintro rfl
          exact absurd (hwhole '.' List.mem_cons_self) (by decide)
        exact Regex.tails_concat_of_nil (Regex.tails_literal_cons_of_ne hpoint)
    · refine Regex.Node.Matches.concat (Regex.matches_many1_iff.2 ⟨hne, hwhole, ?_⟩) ?_
      · exact Regex.notNext_cons_iff.2 (by decide)
      · exact Regex.matches_concat_char_cons_iff.2
          ⟨rfl, Regex.matches_many_iff.2 ⟨hplaces, hrest⟩⟩

theorem matches_exponent {exponent : Text} (h : IsExponent Text.isDecimalDigit exponent)
    (hrest : NotNext (fun c => Text.isDecimalDigit c || c = 'e' || c = 'E') rest) :
    (Node.optional (.group 4 exponentNode)).Matches exponent rest := by
  have hdigit : NotNext Text.isDecimalDigit rest := fun c hmem => by
    have hc := hrest c hmem
    simp only [Bool.or_eq_false_iff] at hc
    exact hc.1.1
  cases h with
  | none =>
    refine Regex.matches_optional_nil (Regex.tails_concat_of_nil ?_)
    cases rest with
    | nil => rfl
    | cons c rest =>
      have hc := Regex.notNext_cons_iff.1 hrest
      have hmark : exponentMark.contains c = false := by
        rw [contains_exponentMark]
        simp only [Bool.or_eq_false_iff] at hc ⊢
        exact ⟨hc.1.2, hc.2⟩
      simp [Node.tails, Regex.oneOf, hmark]
  | @some e sign places he hsign hne hplaces =>
    refine Regex.Node.Matches.optional (Regex.matches_concat_set_cons_iff.2 ⟨?_, ?_⟩)
    · rw [contains_exponentMark]
      simpa using he
    · refine Regex.Node.Matches.concat (matches_minus hsign ?_)
        (Regex.matches_many1_iff.2 ⟨hne, hplaces, hdigit⟩)
      exact notNext_minus_of_digits hne hplaces

/-- A name of a double is found whatever follows it. -/
theorem doublePattern_findAt_name {sign name : Text} (hsign : IsSign sign)
    (hname : IsDoubleName name)
    (hinput : input.dropBytes? index = some (sign ++ name ++ behind)) :
    doublePattern.findAt input index = some (sign ++ name) := by
  refine (Regex.findAt_eq_some_iff doublePattern_anchored rfl).2 ⟨behind, hinput, ?_⟩
  -- Numbers are tried before names, and none begins with a letter.
  have hnumber (rest : Text) (c : Char) (hpoint : '.' ≠ c) (hc : Text.isDecimalDigit c = false) :
      (Node.alt fractionNode wholeNode).tails (c :: rest) = [] := by
    have hfraction : fractionNode.tails (c :: rest) = [] :=
      Regex.tails_concat_of_nil (Regex.tails_literal_cons_of_ne hpoint)
    have hwhole : wholeNode.tails (c :: rest) = [] := by
      apply Regex.tails_concat_of_nil
      rw [Regex.tails_many1_cons, contains_digits, hc]
      rfl
    rw [Node.tails, hfraction, hwhole]
    rfl
  rcases hname with rfl | rfl
  · apply Regex.Node.Matches.concat (matches_minus hsign (Regex.notNext_cons_iff.2 (by decide)))
    refine Regex.Node.Matches.alt_right ?_ (Regex.Node.Matches.alt_left Regex.matches_literal)
    exact Regex.tails_concat_of_nil (hnumber _ 'I' (by decide) (by decide))
  · apply Regex.Node.Matches.concat (matches_minus hsign (Regex.notNext_cons_iff.2 (by decide)))
    refine Regex.Node.Matches.alt_right ?_ (Regex.Node.Matches.alt_right ?_ Regex.matches_literal)
    · exact Regex.tails_concat_of_nil (hnumber _ 'N' (by decide) (by decide))
    · exact Regex.tails_literal_cons_of_ne (by decide)

/-- A decimal is found if neither a digit nor an exponent can follow it. -/
theorem doublePattern_complete (h : IsDouble Text.isDecimalDigit text)
    (hinput : input.dropBytes? index = some (text ++ behind))
    (hbehind : NotNext (fun c => Text.isDecimalDigit c || c = 'e' || c = 'E') behind) :
    doublePattern.findAt input index = some text := by
  cases h with
  | name hsign hname => exact doublePattern_findAt_name hsign hname hinput
  | @number sign mantissa exponent hsign hmantissa hexponent =>
    refine (Regex.findAt_eq_some_iff doublePattern_anchored rfl).2 ⟨behind, hinput, ?_⟩
    -- No part of the number goes on into the next one.
    have hnext : NotNext Text.isDecimalDigit (exponent ++ behind) := by
      cases hexponent with
      | none =>
        intro c hmem
        have hc := hbehind c hmem
        simp only [Bool.or_eq_false_iff] at hc
        exact hc.1.1
      | some he _ _ _ =>
        apply Regex.notNext_cons_iff.2
        rcases he with rfl | rfl <;> decide
    have hfirst : NotNext (· = '-') (mantissa ++ exponent ++ behind) := by
      cases hmantissa with
      | fraction _ _ => exact Regex.notNext_cons_iff.2 (by decide)
      | whole hne hwhole _ =>
        rw [List.append_assoc, List.append_assoc]
        exact notNext_minus_of_digits hne hwhole
    apply Regex.Node.Matches.concat (matches_minus hsign hfirst)
    apply Regex.Node.Matches.alt_left
    exact Regex.Node.Matches.concat (matches_mantissa hmantissa hnext)
      (matches_exponent hexponent hbehind)

end Doubles

end Backtrack.Expression
