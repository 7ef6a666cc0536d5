import Backtrack.Proofs.Expression.RoundTrip
import Backtrack.Proofs.Expression.Soundness

/-! # Displayed expressions

    A displayed expression shows what was parsed, although the text of a
    string is shown as it is and may hold parentheses, commas and all that
    other parts are shown with. A string ends at the first quotation mark, as
    it holds none of its own. Names and whole numbers end at the first
    parenthesis, and so do decimals, in whatever way they are written. What is
    left behind a part begins with a comma or a parenthesis, and no part does.

    * `write_plain_chars`: the characters of a written decimal.
    * `toldApart_of_written`: what is displayed can be told from what follows.
    * `display_determines`: the expressions that runs return. -/

namespace Backtrack

open Expression

/-! ## §1. Written decimals -/

namespace Decimal

/-- A character that decimals are written with. -/
def IsPlain (c : Char) : Prop :=
  c.isDigit = true ∨ c ∈ ['N', 'a', 'i', 'n', 'f', '-', '.']

theorem Digits.isDigit_of_mem_of {count : Nat} {place : Int} {c : Char}
    (h : c ∈ (Digits.of count place).digits) : c.isDigit = true := by
  have hall : c ∈ Nat.toDigits 10 count := by
    have hkept := List.mem_reverse.1 h
    exact List.mem_reverse.1 ((List.dropWhile_suffix _).subset hkept)
  exact Nat.isDigit_of_mem_toDigits (by decide) (by decide) hall

theorem Interval.isDigit_of_mem_shortestFrom (interval : Interval) (point : Int) (left size : Nat) :
    ∀ c ∈ (interval.shortestFrom point left size).digits, c.isDigit = true := by
  induction left generalizing size with
  | zero => exact fun c hmem => Digits.isDigit_of_mem_of hmem
  | succ left ih =>
    unfold Interval.shortestFrom
    split
    · exact fun c hmem => Digits.isDigit_of_mem_of hmem
    · exact ih (size + 1)

/-- The digits of a double are digits. -/
theorem isDigit_of_mem_shortest (mantissa : Nat) (exponent : Int) :
    ∀ c ∈ (shortest mantissa exponent).digits, c.isDigit = true := by
  unfold shortest
  split
  · exact List.forall_mem_nil _
  · exact Interval.isDigit_of_mem_shortestFrom _ _ _ _

/-- Digits and one point are all there is where no exponent is written. -/
theorem Digits.isPlain_of_mem_positional {d : Digits} (hd : ∀ c ∈ d.digits, c.isDigit = true)
    (leastPlaces : Nat) : ∀ c ∈ d.positional leastPlaces, IsPlain c := by
  have hzeros (n : Nat) : ∀ c ∈ List.replicate n '0', IsPlain c := by
    intro c hmem
    rw [List.eq_of_mem_replicate hmem]
    exact .inl rfl
  have htake (n : Nat) : ∀ c ∈ d.digits.take n, IsPlain c :=
    fun c hmem => .inl (hd c (List.mem_of_mem_take hmem))
  have hdrop (n : Nat) : ∀ c ∈ d.digits.drop n, IsPlain c :=
    fun c hmem => .inl (hd c (List.mem_of_mem_drop hmem))
  have hwhole {whole : List Char} (h : ∀ c ∈ whole, IsPlain c) :
      ∀ c ∈ (if whole.isEmpty then ['0'] else whole), IsPlain c := by
    split
    · exact hzeros 1
    · exact h
  have hfront := hwhole (List.forall_mem_append.2
    ⟨htake d.point.toNat, hzeros (d.point.toNat - d.digits.length)⟩)
  have hplaces := List.forall_mem_append.2 ⟨hzeros (-d.point).toNat, hdrop d.point.toNat⟩
  unfold Digits.positional
  dsimp only
  split
  · exact hfront
  · exact List.forall_mem_append.2 ⟨hfront, List.forall_mem_cons.2
      ⟨.inr (by decide), List.forall_mem_append.2 ⟨hplaces, hzeros _⟩⟩⟩

/-- **The characters of a decimal** that is written without an exponent: digits, a point, a minus
and the letters of its names. -/
theorem write_plain_chars (x : Float) : ∀ c ∈ (write .plain x).toList, IsPlain c := by
  have hname (text : Text) (h : text ⊆ ['N', 'a', 'i', 'n', 'f', '-', '.']) :
      ∀ c ∈ text, IsPlain c := fun c hmem => .inr (h hmem)
  unfold write
  split
  · exact hname ['N', 'a', 'N'] (by decide)
  · split
    · exact hname ['-', 'i', 'n', 'f'] (by decide)
    · exact hname ['i', 'n', 'f'] (by decide)
  · next negative mantissa exponent _ =>
    have hdigits : ∀ c ∈ (shortest mantissa exponent).write .plain, IsPlain c :=
      Digits.isPlain_of_mem_positional (isDigit_of_mem_shortest mantissa exponent) 0
    dsimp only
    split
    · rw [String.toList_append]
      refine List.forall_mem_append.2 ⟨hname ['-'] (by decide), ?_⟩
      rw [String.toList_ofList]
      exact hdigits
    · rw [String.toList_ofList]
      exact hdigits

theorem close_not_mem_write (x : Float) : ')' ∉ (write .plain x).toList := by
  intro hmem
  rcases write_plain_chars x _ hmem with hdigit | hname
  · exact absurd hdigit (by decide)
  · exact absurd hname (by decide)

end Decimal

/-! ## §2. What is displayed alike -/

namespace Expression

mutual

/-- The expressions are the same but for decimals, and these are written alike. -/
def SameShown : Expression → Expression → Prop
  | string a, string b => a = b
  | integer m, integer n => m = n
  | double x, double y => Decimal.write .plain x = Decimal.write .plain y
  | identifier a, identifier b => a = b
  | application f as, application g bs => f = g ∧ SameShownAll as bs
  | _, _ => False

/-- The expressions are the same one by one but for decimals, and these are written alike. -/
def SameShownAll : List Expression → List Expression → Prop
  | [], [] => True
  | a :: as, b :: bs => SameShown a b ∧ SameShownAll as bs
  | _, _ => False

end

mutual

theorem SameShown.display_eq {a b : Expression} (h : SameShown a b) : a.display = b.display := by
  cases a with
  | string text =>
    cases b with
    | string other => exact congrArg (fun text => (string text).display) h
    | _ => exact h.elim
  | integer n =>
    cases b with
    | integer m => exact congrArg (fun n => (integer n).display) h
    | _ => exact h.elim
  | double x =>
    cases b with
    | double y =>
      have hwritten : Decimal.write .plain x = Decimal.write .plain y := h
      simp only [display, hwritten]
    | _ => exact h.elim
  | identifier name =>
    cases b with
    | identifier other => exact congrArg displayName h
    | _ => exact h.elim
  | application name arguments =>
    cases b with
    | application other others =>
      obtain ⟨rfl, harguments⟩ : name = other ∧ SameShownAll arguments others := h
      simp only [display, SameShownAll.displayAll_eq harguments]
    | _ => exact h.elim

theorem SameShownAll.displayAll_eq {as bs : List Expression} (h : SameShownAll as bs) :
    displayAll as = displayAll bs := by
  cases as with
  | nil =>
    cases bs with
    | nil => rfl
    | cons b bs => exact h.elim
  | cons a as =>
    cases bs with
    | nil => exact h.elim
    | cons b bs =>
      obtain ⟨hfirst, hrest⟩ : SameShown a b ∧ SameShownAll as bs := h
      have hdisplay := SameShown.display_eq hfirst
      have hothers := SameShownAll.displayAll_eq hrest
      cases as with
      | nil =>
        cases bs with
        | nil => exact hdisplay
        | cons _ _ => exact hrest.elim
      | cons a' as =>
        cases bs with
        | nil => exact hrest.elim
        | cons b' bs => simp only [displayAll] at hothers ⊢; rw [hdisplay, hothers]

end

/-! ## §3. What is displayed can be told from what follows -/

/-- What the first mark divides. -/
theorem eq_of_append_mark {c : Char} {front front' rest rest' : Text} (hfront : c ∉ front)
    (hfront' : c ∉ front') (h : front ++ c :: rest = front' ++ c :: rest') :
    front = front' ∧ rest = rest' := by
  induction front generalizing front' with
  | nil =>
    cases front' with
    | nil => exact ⟨rfl, (List.cons.inj h).2⟩
    | cons d front' => exact absurd (by rw [(List.cons.inj h).1]; simp) hfront'
  | cons d front ih =>
    cases front' with
    | nil => exact absurd (by rw [← (List.cons.inj h).1]; simp) hfront
    | cons d' front' =>
      obtain ⟨hd, hmore⟩ := List.cons.inj h
      obtain ⟨hsame, hrest⟩ := ih (fun hmem => hfront (List.mem_cons_of_mem d hmem))
        (fun hmem => hfront' (List.mem_cons_of_mem d' hmem)) hmore
      exact ⟨by rw [hd, hsame], hrest⟩

/-- The first two characters of what is displayed, which tell the kinds apart. -/
def kind : Expression → Text
  | string _ => ['S', 't']
  | integer _ => ['I', 'n']
  | double _ => ['D', 'o']
  | identifier _ => ['I', 'd']
  | application _ _ => ['F', 'u']

section Characters

variable {Gap : Text → Prop} {e e' a b : Expression} {text text' name content rest rest' : Text}
  {as bs : List Expression}

theorem display_string : (string content).display.toList =
    ['S', 't'] ++ (['r', 'i', 'n', 'g', '(', '"'] ++ (content ++ ['"', ')'])) := by
  simp [display, Text.toString]

theorem display_integer (n : ℕ) : (integer n).display.toList =
    ['I', 'n'] ++ (['t', 'e', 'g', 'e', 'r', '('] ++ ((Nat.repr n).toList ++ [')'])) := by
  have hn : toString (n : Int) = Nat.repr n := rfl
  simp [display, hn]

theorem display_double (x : Float) : (double x).display.toList =
    ['D', 'o'] ++ (['u', 'b', 'l', 'e', '('] ++ ((Decimal.write .plain x).toList ++ [')'])) := by
  simp [display]

theorem display_identifier : (identifier name).display.toList =
    ['I', 'd'] ++ (['e', 'n', 't', 'i', 'f', 'i', 'e', 'r', '('] ++ (name ++ [')'])) := by
  simp [display, displayName, Text.toString]

theorem display_application : (application name as).display.toList =
    ['F', 'u'] ++ ("nction(Identifier(".toList ++ (name ++ ')' :: (", Args(".toList ++
      ((displayAll as).toList ++ [')', ')'])))) := by
  simp [display, displayName, Text.toString]

theorem exists_display (e : Expression) : ∃ more, e.display.toList = e.kind ++ more := by
  cases e with
  | string content => exact ⟨_, display_string⟩
  | integer n =>
    exact ⟨['t', 'e', 'g', 'e', 'r', '('] ++ ((toString n).toList ++ [')']),
      by simp [display, kind]⟩
  | double x => exact ⟨_, display_double x⟩
  | identifier name => exact ⟨_, display_identifier⟩
  | application name arguments => exact ⟨_, display_application⟩

/-- What is displayed alike is of one kind. -/
theorem kind_eq_of_append (h : e.display.toList ++ rest = e'.display.toList ++ rest') :
    e.kind = e'.kind := by
  obtain ⟨more, hmore⟩ := exists_display e
  obtain ⟨more', hmore'⟩ := exists_display e'
  rw [hmore, hmore', List.append_assoc, List.append_assoc] at h
  have hlength : e.kind.length = e'.kind.length := by
    cases e <;> cases e' <;> rfl
  exact (List.append_inj h hlength).1

/-- No part is displayed with a parenthesis in front. -/
theorem display_ne_close : e.display.toList ++ rest ≠ ')' :: rest' := by
  intro h
  obtain ⟨more, hmore⟩ := exists_display e
  rw [hmore] at h
  cases e with
  | string _ | integer _ | double _ | identifier _ | application _ _ =>
    exact absurd (List.cons.inj h).1 (by decide)

theorem close_not_mem_name (h : IsName name) : ')' ∉ name := by
  obtain ⟨c, word, rfl, hc, hword⟩ := h
  intro hmem
  rcases List.mem_cons.1 hmem with rfl | hmem
  · exact absurd hc (by decide)
  · exact absurd (hword _ hmem) (by decide)

theorem close_not_mem_repr (n : ℕ) : ')' ∉ (Nat.repr n).toList := by
  intro hmem
  have hdigit : ')' ∈ Nat.toDigits 10 n := by
    rw [Nat.repr, String.toList_ofList] at hmem
    exact hmem
  exact absurd (Nat.isDigit_of_mem_toDigits (by decide) (by decide) hdigit) (by decide)

/-- The expression can be told from what follows it, among those that can be written. -/
def ToldApart (Gap : Text → Prop) (e : Expression) : Prop :=
  ∀ e' text' rest rest', Written Gap e' text' →
    e.display.toList ++ rest = e'.display.toList ++ rest' → SameShown e e' ∧ rest = rest'

/-- What stands behind the first of several expressions. -/
def displayOthers : List Expression → Text
  | [] => []
  | b :: bs => ',' :: ' ' :: (displayAll (b :: bs)).toList

theorem displayAll_cons : (displayAll (a :: as)).toList = a.display.toList ++ displayOthers as := by
  cases as with
  | nil => simp [displayAll, displayOthers]
  | cons b bs => simp [displayAll, displayOthers]

/-- Arguments that can each be told from what follows can be told from the parenthesis. -/
theorem displayAll_append_inj (has : ∀ a ∈ as, ToldApart Gap a)
    (hbs : ∀ b ∈ bs, ∃ text, Written Gap b text)
    (h : (displayAll as).toList ++ ')' :: rest = (displayAll bs).toList ++ ')' :: rest') :
    SameShownAll as bs ∧ rest = rest' := by
  induction as generalizing bs with
  | nil =>
    cases bs with
    | nil => exact ⟨trivial, (List.cons.inj h).2⟩
    | cons b bs =>
      rw [displayAll_cons, List.append_assoc] at h
      exact absurd h.symm display_ne_close
  | cons a as ih =>
    obtain ⟨ha, has⟩ := List.forall_mem_cons.1 has
    cases bs with
    | nil =>
      rw [displayAll_cons, List.append_assoc] at h
      exact absurd h display_ne_close
    | cons b bs =>
      obtain ⟨⟨text, hb⟩, hbs⟩ := List.forall_mem_cons.1 hbs
      rw [displayAll_cons, displayAll_cons, List.append_assoc, List.append_assoc] at h
      obtain ⟨hfirst, hothers⟩ := ha b text _ _ hb h
      -- Behind the first argument, a comma or a parenthesis tells whether there are others.
      cases as with
      | nil =>
        cases bs with
        | nil => exact ⟨⟨hfirst, trivial⟩, (List.cons.inj hothers).2⟩
        | cons b' bs => exact absurd (List.cons.inj hothers).1 (by decide)
      | cons a' as =>
        cases bs with
        | nil => exact absurd (List.cons.inj hothers).1 (by decide)
        | cons b' bs =>
          have hrest := (List.cons.inj (List.cons.inj hothers).2).2
          obtain ⟨hall, hend⟩ := ih has hbs hrest
          exact ⟨⟨hfirst, hall⟩, hend⟩

/-- **What is displayed can be told from what follows.** -/
theorem toldApart_of_written (h : Written Gap e text) : ToldApart Gap e := by
  induction h with
  | @string content hne hquote =>
    intro e' text' rest rest' h' heq
    have hkind := kind_eq_of_append heq
    cases h' with
    | @string content' hne' hquote' =>
      simp only [display_string, List.append_assoc, List.append_cancel_left_eq] at heq
      obtain ⟨rfl, hrest⟩ := eq_of_append_mark hquote hquote' heq
      exact ⟨rfl, (List.cons.inj hrest).2⟩
    | _ => exact absurd hkind (by simp [kind])
  | integer hne hdigits hsize =>
    intro e' text' rest rest' h' heq
    have hkind := kind_eq_of_append heq
    cases h' with
    | integer hne' hdigits' hsize' =>
      simp only [display_integer, List.append_assoc, List.append_cancel_left_eq] at heq
      obtain ⟨hsame, hrest⟩ := eq_of_append_mark (close_not_mem_repr _) (close_not_mem_repr _) heq
      have hvalue := Nat.repr_inj.1 (String.toList_inj.1 hsame)
      exact ⟨congrArg Int.ofNat hvalue, hrest⟩
    | _ => exact absurd hkind (by simp [kind])
  | @double text x hdouble hread =>
    intro e' text' rest rest' h' heq
    have hkind := kind_eq_of_append heq
    cases h' with
    | double hdouble' hread' =>
      simp only [display_double, List.append_assoc, List.append_cancel_left_eq] at heq
      obtain ⟨hsame, hrest⟩ := eq_of_append_mark (Decimal.close_not_mem_write _)
        (Decimal.close_not_mem_write _) heq
      exact ⟨String.toList_inj.1 hsame, hrest⟩
    | _ => exact absurd hkind (by simp [kind])
  | @identifier name hname hnan hinfinity =>
    intro e' text' rest rest' h' heq
    have hkind := kind_eq_of_append heq
    cases h' with
    | identifier hname' hnan' hinfinity' =>
      simp only [display_identifier, List.append_assoc, List.append_cancel_left_eq] at heq
      obtain ⟨hsame, hrest⟩ :=
        eq_of_append_mark (close_not_mem_name hname) (close_not_mem_name hname') heq
      exact ⟨hsame, hrest⟩
    | _ => exact absurd hkind (by simp [kind])
  | @application front name back parts hfront hname hback hgaps hwritten ih =>
    intro e' text' rest rest' h' heq
    have hkind := kind_eq_of_append heq
    cases h' with
    | @application front' name' back' parts' hfront' hname' hback' hgaps' hwritten' =>
      simp only [display_application, List.append_assoc, List.append_cancel_left_eq] at heq
      obtain ⟨hsame, harguments⟩ :=
        eq_of_append_mark (close_not_mem_name hname) (close_not_mem_name hname') heq
      simp only [List.append_eq, List.append_assoc, List.append_cancel_left_eq] at harguments
      have hparts : ∀ a ∈ parts.map Argument.expression, ToldApart Gap a :=
        List.forall_mem_map.2 ih
      have hparts' : ∀ b ∈ parts'.map Argument.expression, ∃ text, Written Gap b text :=
        List.forall_mem_map.2 fun part hmem => ⟨part.text, hwritten' part hmem⟩
      obtain ⟨hall, hrest⟩ := displayAll_append_inj hparts hparts' harguments
      exact ⟨⟨hsame, hall⟩, (List.cons.inj hrest).2⟩
    | _ => exact absurd hkind (by simp [kind])

end Characters

end Expression

/-! ## §4. Expressions that runs return -/

namespace Language

/-- The expression is what a run of some entry point returns, on some input, at some index, and from
the store that earlier runs left behind. The grammar of applications returns it in parts. -/
def Returned (e : Expression) : Prop :=
  ∃ input index text start,
    (∃ rule session store, (ruleGrammar rule).Reaches session store ∧
      (session.run store input index).1 = .ok (.success ⟨text, start, .atom e⟩)) ∨
    ∃ name arguments session store, e = .application name arguments ∧
      applicationGrammar.Reaches session store ∧
      (session.run store input index).1 = .ok (.success
        ⟨text, start, .pair (.text name) (.list (arguments.map Value.atom))⟩)

/-- What is returned can be written. -/
theorem Returned.exists_written {e : Expression} (h : Returned e) :
    ∃ text, Written IsBlank e text := by
  obtain ⟨input, index, text, _, ⟨rule, session, store, hreach, hrun⟩ |
    ⟨name, arguments, session, store, rfl, hreach, hrun⟩⟩ := h
  · cases rule with
    | expression =>
      obtain ⟨behind, hreads⟩ := ((run_eq_ok_iff hreach).1 hrun).reads
      obtain ⟨_, hvalue, hwritten⟩ := onlyWritten input index _ _ _ (reads_anchored_iff.1 hreads).1
      cases hvalue
      exact ⟨text, hwritten⟩
    | function =>
      obtain ⟨behind, hreads⟩ := ((run_eq_ok_iff hreach).1 hrun).reads
      obtain ⟨inner, happlication, hvalue⟩ := reads_mapped_iff.1 (reads_anchored_iff.1 hreads).1
      obtain ⟨name, arguments, rfl, hwritten⟩ :=
        exists_written_of_reads_application happlication
      rw [ofParts_pair] at hvalue
      cases hvalue
      exact ⟨text, hwritten⟩
  · obtain ⟨behind, hreads⟩ := ((run_eq_ok_iff hreach).1 hrun).reads
    obtain ⟨name', arguments', hvalue, hwritten⟩ :=
      exists_written_of_reads_application (reads_anchored_iff.1 hreads).1
    have hboth := congrArg ofParts hvalue
    rw [ofParts_pair, ofParts_pair] at hboth
    cases hboth
    exact ⟨text, hwritten⟩

/-- What can be written is returned. -/
theorem returned_of_written {e : Expression} {text : Text} (h : Written IsSpace e text) :
    Returned e := by
  obtain ⟨session, store, hstart⟩ : ∃ session store,
      (ruleGrammar .expression).start = .ok (session, store) := ⟨_, _, rfl⟩
  have hreads := reads_of_written h 0 [] ends_nil (dropBytes?_zero text)
  have hreach : expressionGrammar.Reaches session store := .start hstart
  exact ⟨text, 0, text, 0, .inl ⟨.expression, session, store, hreach,
    (run_eq_ok_iff hreach).2 (reads_anchored_iff.2 ⟨hreads, rfl⟩).evaluates⟩⟩

/-- **What is printed determines what was parsed.** Of expressions that runs return, two are
displayed alike only if they are the same but for decimals, and these are written alike. More than
that, what is displayed can be told from whatever follows it, so nothing in a string or a name is
ever taken for the end of a part. -/
theorem display_determines {e e' : Expression} (h : Returned e) (h' : Returned e') :
    (e.display = e'.display ↔ SameShown e e') ∧
      ∀ rest rest' : String, e.display ++ rest = e'.display ++ rest' →
        SameShown e e' ∧ rest = rest' := by
  obtain ⟨text, hwritten⟩ := h.exists_written
  obtain ⟨text', hwritten'⟩ := h'.exists_written
  have htold (rest rest' : String) (heq : e.display ++ rest = e'.display ++ rest') :
      SameShown e e' ∧ rest = rest' := by
    have hlists := congrArg String.toList heq
    rw [String.toList_append, String.toList_append] at hlists
    obtain ⟨hsame, hrest⟩ := toldApart_of_written hwritten _ _ _ _ hwritten' hlists
    exact ⟨hsame, String.toList_inj.1 hrest⟩
  refine ⟨⟨fun heq => ?_, SameShown.display_eq⟩, htold⟩
  have hboth : e.display ++ "" = e'.display ++ "" := congrArg (· ++ "") heq
  exact (htold "" "" hboth).1

/-- A string that looks like the end of one argument and the beginning of another is displayed
unlike two arguments. -/
theorem display_determines_argument :
    Returned (.application ['f'] [.string "a, Integer(2".toList]) ∧
      Returned (.application ['f'] [.string ['a'], .integer 2]) ∧
      (Expression.application ['f'] [.string "a, Integer(2".toList]).display ≠
        (Expression.application ['f'] [.string ['a'], .integer 2]).display := by
  have hnone : IsBlank [] := List.forall_mem_nil _
  have hgap : IsSpace [' '] := ⟨List.cons_ne_nil _ _, List.forall_mem_singleton.2 rfl⟩
  have hname : IsName ['f'] := ⟨'f', [], rfl, rfl, List.forall_mem_nil _⟩
  have hlong : Written IsSpace (.string "a, Integer(2".toList) "\"a, Integer(2\"".toList :=
    @Written.string IsSpace "a, Integer(2".toList (by simp) (by simp)
  have hshort : Written IsSpace (.string ['a']) ['"', 'a', '"'] :=
    @Written.string IsSpace ['a'] (by decide) (by decide)
  have hnumber : Written IsSpace (.integer 2) ['2'] :=
    @Written.integer IsSpace ['2'] (by simp) (List.all_eq_true.1 rfl) (by decide)
  have h : Returned (.application ['f'] [.string "a, Integer(2".toList]) :=
    returned_of_written (@Written.application IsSpace [] ['f'] [] [⟨[' '], _, _⟩] hnone hname hnone
      (List.forall_mem_singleton.2 hgap) (List.forall_mem_singleton.2 hlong))
  have h' : Returned (.application ['f'] [.string ['a'], .integer 2]) :=
    returned_of_written (@Written.application IsSpace [] ['f'] [] [⟨[' '], _, _⟩, ⟨[' '], _, _⟩]
      hnone hname hnone (List.forall_mem_cons.2 ⟨hgap, List.forall_mem_singleton.2 hgap⟩)
      (List.forall_mem_cons.2 ⟨hshort, List.forall_mem_singleton.2 hnumber⟩))
  refine ⟨h, h', fun heq => ?_⟩
  have hsame := (display_determines h h').1.1 heq
  exact hsame.2.2

end Language

end Backtrack
