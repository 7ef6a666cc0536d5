import Backtrack.Conversion
import Backtrack.Proofs.Expression.Writing
import Backtrack.Proofs.Parser.Rounds
import Backtrack.Proofs.Session.Outcomes
import Backtrack.Proofs.Session.Roots

/-! # Lists of numbers

    Numbers of 32 bits between brackets, with commas between them: a grammar
    in which a conversion that refuses ends a repetition.

    Its pattern takes digits of all scripts and as many as there are, so
    that a number is refused that is too large or not written in ASCII, also
    behind a comma that has been read by then. The bracket that has to
    follow does not stand there, and so the whole list is refused. A comma
    with nothing of a number behind it is no obstacle to the bracket.

    * `reads_number_iff`: what is read as one number.
    * `exists_of_chain`, `chain_numerals`: numbers behind commas.
    * `listing_accepts`: which texts are accepted, and with which values. -/

namespace Backtrack

open Regex (NotNext)

/-! ## §1. The grammar -/

namespace Listing

/-- A number of 32 bits, in digits. -/
def number {ρ : Type} : Parser ρ Scalar :=
  .converted (.pattern Expression.integerPattern) (Check.whole (.unsigned 32)).apply

/-- Numbers with commas between them. -/
def numbers {ρ : Type} : Parser ρ Scalar :=
  .separated number (.literal [',']) .many

/-- Picks what stands between the brackets. -/
def middle (value : Value Scalar) : Value Scalar :=
  match value.steps 2 with
  | [_, items, _] => items
  | _ => value

/-- A list of numbers in brackets, up to the end of the input. -/
def list {ρ : Type} : Parser ρ Scalar :=
  .anchored (.mapped (Parser.sequenceAll (.literal ['[']) [numbers, .literal [']']]) middle)

/-- The grammar of such lists, which has no rules. -/
def grammar : Grammar Empty Scalar where
  rules := []
  root := list

/-- The session that it starts with. -/
def session : Session Empty Scalar where
  rules := []
  shared := []
  root := list

/-! ## §2. Numbers -/

/-- The text of a number of 32 bits: digits of ASCII, one at least. -/
structure IsNumeral (text : Text) : Prop where
  ne_nil : text ≠ []
  digits : ∀ c ∈ text, c.isDigit = true
  below : Decimal.valueOf text < 2 ^ 32

/-- The value of such a text. -/
def valueOf (numeral : Text) : Value Scalar :=
  .atom (.whole (Decimal.valueOf numeral))

section Numbers

variable {ρ : Type} {rules : ρ → Option (Parser ρ Scalar)} {input text behind : Text} {index : Nat}
  {value : Value Scalar}

/-- Digits of any script are converted if they are those of a number of 32 bits in ASCII. -/
theorem apply_whole_eq_ok_iff (hne : text ≠ [])
    (hdigits : ∀ c ∈ text, Text.isDecimalDigit c = true) :
    (Check.whole (.unsigned 32)).apply (.text text) = .ok value ↔
      IsNumeral text ∧ value = valueOf text := by
  have hread (n : Int) := @Numeral.readWhole_eq_ok_iff_of_range (.unsigned 32) (by decide)
    (by decide) text n hne hdigits
  have hgreatest : (Numeral.WordRange.unsigned 32).greatest = 2 ^ 32 - 1 := rfl
  rw [hgreatest] at hread
  -- The conversion goes by what is read as a whole number.
  have happly : (Check.whole (.unsigned 32)).apply (.text text) =
      ((Numeral.readWhole (.unsigned 32) text).mapError (·.message)).map
        fun n => .atom (.whole n) := by
    simp only [Check.apply, Check.read]
    cases Numeral.readWhole (.unsigned 32) text with
    | error error => rfl
    | ok n => rfl
  rw [happly]
  constructor
  · intro h
    cases hwhole : Numeral.readWhole (.unsigned 32) text with
    | error error =>
      rw [hwhole] at h
      cases h
    | ok n =>
      rw [hwhole] at h
      cases h
      obtain ⟨hascii, rfl, hle⟩ := (hread n).1 hwhole
      exact ⟨⟨hne, hascii, by omega⟩, rfl⟩
  · intro h
    obtain ⟨⟨_, hascii, hbelow⟩, rfl⟩ := h
    rw [(hread (Decimal.valueOf text)).2 ⟨hascii, rfl, by omega⟩]
    rfl

/-- A number is read with all digits of any script that stand there. -/
theorem reads_number_iff : Reads rules input index number text behind value ↔
    input.dropBytes? index = some (text ++ behind) ∧ IsNumeral text ∧
      NotNext Text.isDecimalDigit behind ∧ value = valueOf text := by
  have hpattern (inner : Value Scalar) :
      Reads rules input index (.pattern Expression.integerPattern) text behind inner ↔
        input.dropBytes? index = some (text ++ behind) ∧
          (text ≠ [] ∧ (∀ c ∈ text, Text.isDecimalDigit c = true) ∧
            NotNext Text.isDecimalDigit behind) ∧ inner = .text text :=
    reads_pattern_iff_of_findAt Expression.integerPattern_findAt
  constructor
  · intro h
    obtain ⟨inner, hreads, hconvert⟩ := reads_converted_iff.1 h
    obtain ⟨hindex, ⟨hne, hdigits, hnext⟩, rfl⟩ := (hpattern inner).1 hreads
    obtain ⟨hnumeral, hvalue⟩ := (apply_whole_eq_ok_iff hne hdigits).1 hconvert
    exact ⟨hindex, hnumeral, hnext, hvalue⟩
  · intro h
    obtain ⟨hindex, hnumeral, hnext, hvalue⟩ := h
    have hdigits (c : Char) (hmem : c ∈ text) : Text.isDecimalDigit c = true :=
      Expression.isDecimalDigit_of_isDigit (hnumeral.digits c hmem)
    exact reads_converted_iff.2 ⟨_, (hpattern _).2 ⟨hindex, ⟨hnumeral.ne_nil, hdigits, hnext⟩, rfl⟩,
      (apply_whole_eq_ok_iff hnumeral.ne_nil hdigits).2 ⟨hnumeral, hvalue⟩⟩

/-- What does not begin with a digit is no number. -/
theorem refuses_number (hindex : input.dropBytes? index = some behind)
    (hnext : NotNext Text.isDecimalDigit behind) : Refuses rules input index number := by
  apply refuses_converted
  rw [refuses_pattern_iff, Option.eq_none_iff_forall_ne_some]
  intro found hfound
  obtain ⟨rest, hrest, hne, hdigits, _⟩ := Expression.integerPattern_findAt.1 hfound
  obtain ⟨c, more, rfl⟩ := List.exists_cons_of_ne_nil hne
  have hbehind : behind = c :: (more ++ rest) := Option.some.inj (hindex.symm.trans hrest)
  have hnot : Text.isDecimalDigit c = false := hnext c (by rw [hbehind]; rfl)
  rw [hdigits c List.mem_cons_self] at hnot
  cases hnot

end Numbers

/-! ## §3. Numbers behind commas -/

/-- A last comma, or none. -/
def comma (trailing : Bool) : Text :=
  if trailing then [','] else []

/-- A comma in front of each numeral, and perhaps a last one. -/
def tail (numerals : List Text) (trailing : Bool) : Text :=
  numerals.flatMap (',' :: ·) ++ comma trailing

/-- The numerals with single commas between them, and perhaps a last one. -/
def items (numerals : List Text) (trailing : Bool) : Text :=
  [','].intercalate numerals ++ comma trailing

theorem tail_cons (numeral : Text) (numerals : List Text) (trailing : Bool) :
    tail (numeral :: numerals) trailing = [','] ++ (numeral ++ tail numerals trailing) := by
  simp [tail]

theorem items_cons (numeral : Text) (numerals : List Text) (trailing : Bool) :
    items (numeral :: numerals) trailing = numeral ++ tail numerals trailing := by
  have hjoined : [','].intercalate (numeral :: numerals) =
      numeral ++ numerals.flatMap (',' :: ·) := by
    induction numerals generalizing numeral with
    | nil => simp
    | cons next numerals ih => simp [List.intercalate_cons_cons, ih]
  unfold items tail
  rw [hjoined, List.append_assoc]

/-- Neither a comma nor a closing bracket is a digit. -/
theorem notNext_tail (numerals : List Text) (trailing : Bool) (rest : Text) :
    NotNext Text.isDecimalDigit (tail numerals trailing ++ ']' :: rest) := by
  have hcomma : Text.isDecimalDigit ',' = false := by decide
  have hclose : Text.isDecimalDigit ']' = false := by decide
  cases numerals with
  | cons numeral numerals =>
    rw [tail_cons]
    exact Regex.notNext_cons_iff.2 hcomma
  | nil =>
    cases trailing with
    | true => exact Regex.notNext_cons_iff.2 hcomma
    | false => exact Regex.notNext_cons_iff.2 hclose

section Chains

variable {ρ : Type} {rules : ρ → Option (Parser ρ Scalar)} {input text behind rest : Text}
  {index : Nat} {value : Value Scalar} {values : List (Value Scalar)} {numerals : List Text}
  {trailing : Bool}

/-- Whatever follows the first number is numbers behind commas, and perhaps one more comma. -/
theorem exists_of_chain
    (h : Chain rules input number (.literal [',']) index text behind values) :
    ∃ numerals trailing, (∀ numeral ∈ numerals, IsNumeral numeral) ∧
      text = tail numerals trailing ∧ values = numerals.map valueOf := by
  induction h with
  | unseparated _ _ => exact ⟨[], false, nofun, rfl, rfl⟩
  | unfinished hgap _ =>
    obtain ⟨rfl, _, _⟩ := reads_text_iff.1 hgap
    exact ⟨[], true, nofun, rfl, rfl⟩
  | still hgap _ =>
    -- A comma is never nothing.
    obtain ⟨hnil, _, _⟩ := reads_text_iff.1 hgap
    cases hnil
  | round hgap hnumber _ _ ih =>
    obtain ⟨rfl, _, _⟩ := reads_text_iff.1 hgap
    obtain ⟨_, hnumeral, _, rfl⟩ := reads_number_iff.1 hnumber
    obtain ⟨numerals, trailing, hnumerals, rfl, rfl⟩ := ih
    exact ⟨_ :: numerals, trailing, List.forall_mem_cons.2 ⟨hnumeral, hnumerals⟩,
      (tail_cons _ numerals trailing).symm, rfl⟩

/-- Numbers behind commas are read up to the closing bracket. -/
theorem chain_numerals (hnumerals : ∀ numeral ∈ numerals, IsNumeral numeral)
    (hindex : input.dropBytes? index = some (tail numerals trailing ++ ']' :: rest)) :
    Chain rules input number (.literal [',']) index (tail numerals trailing) (']' :: rest)
      (numerals.map valueOf) := by
  induction numerals generalizing index with
  | nil =>
    cases trailing with
    | false =>
      refine .unseparated hindex (refuses_character hindex ?_)
      intro hhead
      cases hhead
    | true =>
      -- The last comma is read, and no number stands behind it.
      have hgap : Reads rules input index (.literal [',']) [','] (']' :: rest) (.text [',']) :=
        reads_text_iff.2 ⟨rfl, rfl, hindex⟩
      exact .unfinished hgap (refuses_number (Text.dropBytes?_add_size hgap.at_index)
        (notNext_tail [] false rest))
  | cons numeral numerals ih =>
    obtain ⟨hnumeral, hnumerals⟩ := List.forall_mem_cons.1 hnumerals
    rw [tail_cons, List.append_assoc, List.append_assoc] at hindex
    have hgap : Reads rules input index (.literal [',']) [',']
        (numeral ++ (tail numerals trailing ++ ']' :: rest)) (.text [',']) :=
      reads_text_iff.2 ⟨rfl, rfl, hindex⟩
    have hnumber : Reads rules input (index + Text.size [',']) number numeral
        (tail numerals trailing ++ ']' :: rest) (valueOf numeral) :=
      reads_number_iff.2
        ⟨Text.dropBytes?_add_size hindex, hnumeral, notNext_tail numerals trailing rest, rfl⟩
    rw [tail_cons]
    exact .round hgap hnumber (List.cons_ne_nil _ _)
      (ih hnumerals (Text.dropBytes?_add_size hnumber.at_index))

/-- In front of a closing bracket the numbers between commas are read, be there none or any number
of them. -/
theorem reads_numbers_iff : Reads rules input index numbers text (']' :: rest) value ↔
    input.dropBytes? index = some (text ++ ']' :: rest) ∧
      ∃ numerals trailing, (∀ numeral ∈ numerals, IsNumeral numeral) ∧
        (trailing = true → numerals ≠ []) ∧ text = items numerals trailing ∧
        value = .list (numerals.map valueOf) := by
  unfold numbers
  constructor
  · intro h
    refine ⟨h.at_index, ?_⟩
    rcases (reads_separated_iff_of_min (Nat.zero_le 1) rfl).1 h with
      ⟨_, rfl, rfl, _, _⟩ | ⟨first, more, inner, others, rfl, rfl, hnumber, hmore⟩
    · exact ⟨[], false, nofun, nofun, rfl, rfl⟩
    · obtain ⟨_, hnumeral, _, rfl⟩ := reads_number_iff.1 hnumber
      rcases hmore with ⟨hnil, _, _⟩ | ⟨_, hchain⟩
      · exact absurd hnil hnumeral.ne_nil
      · obtain ⟨numerals, trailing, hnumerals, rfl, rfl⟩ := exists_of_chain hchain
        exact ⟨first :: numerals, trailing, List.forall_mem_cons.2 ⟨hnumeral, hnumerals⟩,
          fun _ => List.cons_ne_nil _ _, (items_cons first numerals trailing).symm, rfl⟩
  · intro h
    obtain ⟨hindex, numerals, trailing, hnumerals, htrailing, rfl, rfl⟩ := h
    apply (reads_separated_iff_of_min (Nat.zero_le 1) rfl).2
    cases numerals with
    | nil =>
      have hfalse : trailing = false := by
        by_contra hne
        exact htrailing (Bool.eq_true_of_not_eq_false hne) rfl
      subst hfalse
      exact .inl ⟨rfl, rfl, rfl, hindex, refuses_number hindex (notNext_tail [] false rest)⟩
    | cons numeral numerals =>
      obtain ⟨hnumeral, hnumerals⟩ := List.forall_mem_cons.1 hnumerals
      rw [items_cons, List.append_assoc] at hindex
      have hnumber : Reads rules input index number numeral
          (tail numerals trailing ++ ']' :: rest) (valueOf numeral) :=
        reads_number_iff.2 ⟨hindex, hnumeral, notNext_tail numerals trailing rest, rfl⟩
      exact .inr ⟨numeral, tail numerals trailing, _, _, items_cons numeral numerals trailing, rfl,
        hnumber, .inr ⟨hnumeral.ne_nil,
          chain_numerals hnumerals (Text.dropBytes?_add_size hindex)⟩⟩

/-- The text of a list. -/
def listText (numerals : List Text) (trailing : Bool) : Text :=
  ['['] ++ items numerals trailing ++ [']']

/-- A list is read with all the numbers in its brackets. -/
theorem reads_list_iff : Reads rules input 0 list text behind value ↔
    behind = [] ∧ text = input ∧ ∃ numerals trailing,
      (∀ numeral ∈ numerals, IsNumeral numeral) ∧ (trailing = true → numerals ≠ []) ∧
      input = listText numerals trailing ∧ value = .list (numerals.map valueOf) := by
  constructor
  · intro h
    obtain ⟨hmapped, rfl⟩ := reads_anchored_iff.1 h
    obtain ⟨_, hbrackets, rfl⟩ := reads_mapped_iff.1 hmapped
    obtain ⟨_, _, _, _, rfl, rfl, hfront, hclose⟩ := reads_sequence_iff.1 hbrackets
    obtain ⟨_, _, _, _, rfl, rfl, hopen, hnumbers⟩ := reads_sequence_iff.1 hfront
    obtain ⟨rfl, rfl, _⟩ := reads_text_iff.1 hopen
    obtain ⟨rfl, rfl, _⟩ := reads_text_iff.1 hclose
    obtain ⟨_, numerals, trailing, hnumerals, htrailing, rfl, rfl⟩ := reads_numbers_iff.1 hnumbers
    -- All of the input stands at its start.
    have hstart : input.dropBytes? 0 = some (listText numerals trailing ++ []) := h.at_index
    rw [Text.dropBytes?_eq_some_iff] at hstart
    obtain ⟨front, hinput, hfront⟩ := hstart
    rw [Text.size_eq_zero_iff.1 hfront, List.nil_append, List.append_nil] at hinput
    exact ⟨rfl, hinput.symm, numerals, trailing, hnumerals, htrailing, hinput, rfl⟩
  · intro h
    obtain ⟨rfl, rfl, numerals, trailing, hnumerals, htrailing, rfl, rfl⟩ := h
    have hopen : Reads rules (listText numerals trailing) 0 (.literal ['[']) ['[']
        (items numerals trailing ++ [']']) (.text ['[']) :=
      reads_text_iff.2 ⟨rfl, rfl, Text.dropBytes?_eq_some_iff.2 ⟨[], rfl, rfl⟩⟩
    have hnumbers : Reads rules (listText numerals trailing) (0 + Text.size ['[']) numbers
        (items numerals trailing) [']'] (.list (numerals.map valueOf)) :=
      reads_numbers_iff.2 ⟨Text.dropBytes?_add_size hopen.at_index, numerals, trailing, hnumerals,
        htrailing, rfl, rfl⟩
    have hfront := reads_sequence_iff.2 ⟨_, _, _, _, rfl, rfl, hopen, hnumbers⟩
    have hclose : Reads rules (listText numerals trailing)
        (0 + Text.size (['['] ++ items numerals trailing)) (.literal [']']) [']'] []
        (.text [']']) :=
      reads_text_iff.2 ⟨rfl, rfl, Text.dropBytes?_add_size hfront.at_index⟩
    have hbrackets := reads_sequence_iff.2 ⟨_, _, _, _, rfl, rfl, hfront, hclose⟩
    exact reads_anchored_iff.2 ⟨reads_mapped_iff.2 ⟨_, hbrackets, rfl⟩, rfl⟩

end Chains

/-! ## §4. Lists -/

/-- **The list grammar.** It can be started, and every run has an outcome. At the start of an input
a run succeeds exactly if the input is an opening bracket, then nothing or any number of numerals
with single commas between them and perhaps one more comma behind them, then a closing bracket,
where a numeral is one or more digits of ASCII whose value is a number of 32 bits. The match is then
all of the input, and its value is the list of the numbers in order. -/
theorem listing_accepts :
    grammar.Starts ∧ ∀ session store, grammar.Reaches session store → ∀ input,
      (∃ outcome, (session.run store input 0).1 = .ok outcome) ∧
      ∀ success, (session.run store input 0).1 = .ok (.success success) ↔
        ∃ numerals trailing, (∀ numeral ∈ numerals, IsNumeral numeral) ∧
          (trailing = true → numerals ≠ []) ∧ input = listText numerals trailing ∧
          success = ⟨input, 0, .list (numerals.map valueOf)⟩ := by
  refine ⟨⟨session, ⟨0, [], []⟩, rfl⟩, fun session store hreach input => ⟨?_, fun success => ?_⟩⟩
  · obtain ⟨outcome, hrun, _⟩ := hreach.exists_outcome ⟨nofun, nofun⟩ nofun input 0
    exact ⟨outcome, hrun⟩
  · have hparser : session.parser = list := by
      obtain ⟨first, hstart⟩ := hreach.exists_start
      cases hstart
      rfl
    rw [hreach.run_eq_ok_iff, hparser]
    constructor
    · intro h
      obtain ⟨behind, hreads⟩ := h.reads
      obtain ⟨_, htext, numerals, trailing, hnumerals, htrailing, hinput, hvalue⟩ :=
        reads_list_iff.1 hreads
      have hindex : success.index = 0 := h.isSlice.1
      refine ⟨numerals, trailing, hnumerals, htrailing, hinput, ?_⟩
      rw [← htext, ← hindex, ← hvalue]
    · intro h
      obtain ⟨numerals, trailing, hnumerals, htrailing, hinput, rfl⟩ := h
      exact (reads_list_iff.2
        ⟨rfl, rfl, numerals, trailing, hnumerals, htrailing, hinput, rfl⟩).evaluates

/-- Two numbers and a last comma: the second number has a zero in front. -/
theorem listing_accepts_two :
    grammar.Reaches session ⟨0, [], []⟩ ∧
      (session.run ⟨0, [], []⟩ ['[', '1', ',', '0', '2', ',', ']'] 0).1 =
        .ok (.success ⟨['[', '1', ',', '0', '2', ',', ']'], 0,
          .list [.atom (.whole 1), .atom (.whole 2)]⟩) := by
  have hreach : grammar.Reaches session ⟨0, [], []⟩ := .start rfl
  have hone : IsNumeral ['1'] := ⟨by decide, by simp, by decide⟩
  have htwo : IsNumeral ['0', '2'] := ⟨by decide, by simp, by decide⟩
  have hnumerals : ∀ numeral ∈ [['1'], ['0', '2']], IsNumeral numeral :=
    List.forall_mem_cons.2 ⟨hone, List.forall_mem_singleton.2 htwo⟩
  obtain ⟨_, haccepts⟩ := listing_accepts.2 session _ hreach (listText [['1'], ['0', '2']] true)
  exact ⟨hreach, (haccepts _).2 ⟨_, true, hnumerals, fun _ => List.cons_ne_nil _ _, rfl, rfl⟩⟩

end Listing

end Backtrack
