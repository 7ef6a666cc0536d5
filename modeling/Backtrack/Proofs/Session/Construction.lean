import Backtrack.Proofs.Parser.Names
import Backtrack.Session

/-! # Construction

    Building a written parser numbers its cells from a counter on. The
    number at which it starts decides the numbers of the cells and nothing
    else (`build_alike`), and the cells that are made are told apart by
    their numbers (`build_fresh`).

    With that a rule has one meaning wherever it is built, which is a parser
    that mentions rules where the built one mentions cells
    (`Session.rule?`). -/

namespace Backtrack

variable {κ α β γ : Type}

/-! ## §1. Steps of a construction -/

namespace Construct

/-- The second step of a construction starts at the number where the first one stopped. -/
theorem run_bind_eq_ok_iff {x : Construct β} {f : β → Construct γ} {n : Nat} {result : γ × Nat} :
    (x >>= f).run n = .ok result ↔
      ∃ built m, x.run n = .ok (built, m) ∧ (f built).run m = .ok result := by
  rw [StateT.run_bind]
  cases hx : x.run n with
  | error stop =>
    constructor
    · intro h
      cases h
    · rintro ⟨built, m, h, _⟩
      cases h
  | ok pair =>
    constructor
    · intro h
      exact ⟨pair.1, pair.2, rfl, h⟩
    · rintro ⟨built, m, h, hf⟩
      cases h
      exact hf

theorem run_pure_eq_ok_iff {built : β} {n : Nat} {result : β × Nat} :
    (pure built : Construct β).run n = .ok result ↔ result = (built, n) := by
  constructor
  · intro h
    cases h
    rfl
  · rintro rfl
    rfl

/-- A construction whose last step makes no cells stops at the number where the steps before it
did. -/
theorem run_map_eq_ok_iff {x : Construct β} {f : β → γ} {n m : Nat} {result : γ} :
    (x >>= fun built => pure (f built)).run n = .ok (result, m) ↔
      ∃ built, x.run n = .ok (built, m) ∧ f built = result := by
  rw [run_bind_eq_ok_iff]
  constructor
  · rintro ⟨built, m', hx, hpure⟩
    obtain ⟨rfl, rfl⟩ := Prod.mk.inj (run_pure_eq_ok_iff.1 hpure)
    exact ⟨built, hx, rfl⟩
  · rintro ⟨built, hx, rfl⟩
    exact ⟨built, m, hx, rfl⟩

/-- Two constructions give the same, from whatever numbers they start, as far as a view of what they
build can tell. -/
def Alike (view : β → γ) (x y : Construct β) : Prop :=
  ∀ m n, (x.run m).map (fun built => view built.1) = (y.run n).map (fun built => view built.1)

theorem Alike.pure {view : β → γ} {a b : β} (h : view a = view b) :
    Alike view (Pure.pure a) (Pure.pure b) := by
  intro m n
  show Except.ok (view a) = Except.ok (view b)
  rw [h]

theorem Alike.bind {δ ε : Type} {view : β → γ} {view' : δ → ε} {x y : Construct β}
    {f g : β → Construct δ} (hx : Alike view x y)
    (hf : ∀ a b, view a = view b → Alike view' (f a) (g b)) : Alike view' (x >>= f) (y >>= g) := by
  intro m n
  rw [StateT.run_bind, StateT.run_bind]
  have hmn := hx m n
  cases hxm : x.run m with
  | error stop =>
    cases hyn : y.run n with
    | error stop' =>
      rw [hxm, hyn] at hmn
      cases hmn
      rfl
    | ok pair =>
      rw [hxm, hyn] at hmn
      cases hmn
  | ok pair =>
    cases hyn : y.run n with
    | error stop =>
      rw [hxm, hyn] at hmn
      cases hmn
    | ok pair' =>
      rw [hxm, hyn] at hmn
      exact hf pair.1 pair'.1 (Except.ok.inj hmn) pair.2 pair'.2

theorem Alike.map {δ ε : Type} {view : β → γ} {view' : δ → ε} {x y : Construct β} {f : β → δ}
    (hx : Alike view x y) (g : γ → ε) (hf : ∀ a, view' (f a) = g (view a)) :
    Alike view' (x >>= fun a => Pure.pure (f a)) (y >>= fun a => Pure.pure (f a)) := by
  apply hx.bind
  intro a b hab
  apply Alike.pure
  rw [hf, hf, hab]

theorem Alike.throw {view : β → γ} (stop : Stop) :
    Alike view (MonadExcept.throw stop) (MonadExcept.throw stop) :=
  fun _ _ => rfl

end Construct

/-- A check goes through where the bounds are consistent, and makes no cells. -/
theorem Bounds.check_run_eq_ok_iff {bounds : Bounds} {n : Nat} {result : Unit × Nat} :
    bounds.check.run n = .ok result ↔ bounds.consistent = true ∧ result = ((), n) := by
  obtain ⟨min, max⟩ := bounds
  unfold Bounds.check Bounds.consistent
  cases max with
  | none =>
    rw [Construct.run_pure_eq_ok_iff]
    simp
  | some max =>
    by_cases hle : min ≤ max
    · simp only [hle, if_true]
      rw [Construct.run_pure_eq_ok_iff]
      simp [hle]
    · simp only [hle, if_false, Option.all_some, decide_false, Bool.false_eq_true, false_and,
        iff_false]
      intro h
      cases h

/-! ## §2. The meaning of a rule -/

/-- A built parser over the rules that its cells are mentions of. -/
def Parser.overRules (parser : BuiltParser κ α) : Parser κ α :=
  parser.rename Cell.rule

/-- What a rule stands for: the parser that is built for it. There is none if it cannot be built. -/
def Session.rule? [DecidableEq κ] (session : Session κ α) (name : κ) : Option (Parser κ α) :=
  match session.rules.lookup name with
  | none => none
  | some template =>
    match (build session.shared template).run 0 with
    | .ok (parser, _) => some parser.overRules
    | .error _ => none

/-- The parser that a session runs, over the names of rules. -/
def Session.parser (session : Session κ α) : Parser κ α :=
  session.root.overRules

section Alike

variable (shared : SharedParsers κ α)

open Construct

theorem check_alike (bounds : Bounds) : Alike id bounds.check bounds.check := by
  unfold Bounds.check
  split
  · split
    · exact .pure rfl
    · exact .throw _
  · exact .pure rfl

/-- Building gives the same parser from every number on, up to the numbers of its cells. -/
theorem build_alike (template : Template κ α) :
    Alike Parser.overRules (build shared template) (build shared template) := by
  induction template using Parser.induction with
  | literal text => exact .pure rfl
  | pattern expression => exact .pure rfl
  | sequence first next hfirst hnext =>
    refine hfirst.bind fun a b hab => hnext.bind fun c d hcd => .pure ?_
    simp only [Parser.overRules, Parser.rename] at hab hcd ⊢
    rw [hab, hcd]
  | choice alternatives ih =>
    have hall : Alike (Parser.renameAll Cell.rule) (buildAll shared alternatives)
        (buildAll shared alternatives) := by
      induction alternatives with
      | nil => exact .pure rfl
      | cons template rest ihrest =>
        refine (ih template List.mem_cons_self).bind fun a b hab =>
          (ihrest fun parser hmem => ih parser (List.mem_cons_of_mem _ hmem)).bind
            fun as bs habs => .pure ?_
        simp only [Parser.overRules] at hab
        simp only [Parser.renameAll, hab, habs]
    exact hall.map .choice fun _ => rfl
  | repetition body bounds ih =>
    -- Bounds are checked behind the body, and the check is the same from every number on.
    refine ih.bind fun a b hab => (check_alike bounds).bind fun _ _ _ => .pure ?_
    simp only [Parser.overRules, Parser.rename] at hab ⊢
    rw [hab]
  | separated body separator bounds hbody hseparator =>
    refine hbody.bind fun a b hab => (check_alike bounds).bind fun _ _ _ =>
      hseparator.bind fun c d hcd => .pure ?_
    simp only [Parser.overRules, Parser.rename] at hab hcd ⊢
    rw [hab, hcd]
  | option body ih => exact ih.map .option fun _ => rfl
  | negation body ih => exact ih.map .negation fun _ => rfl
  | anchored body ih => exact ih.map .anchored fun _ => rfl
  | mapped body convert ih => exact ih.map (.mapped · convert) fun _ => rfl
  | converted body convert ih => exact ih.map (.converted · convert) fun _ => rfl
  | deferred mention =>
    cases mention with
    | rule name => exact fun _ _ => rfl
    | shared name =>
      simp only [build]
      split
      · exact .pure rfl
      · exact .throw _

end Alike

/-- A rule that is built from any number on is what it stands for. -/
theorem Session.rule?_eq_some_of_build [DecidableEq κ] {session : Session κ α} {name : κ}
    {template : Template κ α} {n : Nat} {parser : BuiltParser κ α} {behind : Nat}
    (hlookup : session.rules.lookup name = some template)
    (hbuild : (build session.shared template).run n = .ok (parser, behind)) :
    session.rule? name = some parser.overRules := by
  have halike := build_alike session.shared template n 0
  unfold Session.rule?
  rw [hbuild] at halike
  simp only [hlookup]
  cases hzero : (build session.shared template).run 0 with
  | error stop =>
    rw [hzero] at halike
    cases halike
  | ok pair =>
    rw [hzero] at halike
    exact congrArg some (Except.ok.inj halike).symm

/-- A rule that cannot be built from some number on stands for nothing. -/
theorem Session.rule?_eq_none_of_build [DecidableEq κ] {session : Session κ α} {name : κ}
    {template : Template κ α} {n : Nat} {stop : Stop}
    (hlookup : session.rules.lookup name = some template)
    (hbuild : (build session.shared template).run n = .error stop) :
    session.rule? name = none := by
  have halike := build_alike session.shared template n 0
  unfold Session.rule?
  rw [hbuild] at halike
  simp only [hlookup]
  cases hzero : (build session.shared template).run 0 with
  | error stop => rfl
  | ok pair =>
    rw [hzero] at halike
    cases halike

/-- Several parsers are built over the rules that their templates mention, if each of them is. -/
theorem renameAll_of_buildAll {f : Mention κ → κ} {templates : List (Template κ α)} {n m : Nat}
    {parsers : List (BuiltParser κ α)}
    (each : ∀ template ∈ templates, ∀ {n m : Nat} {parser : BuiltParser κ α},
      (build [] template).run n = .ok (parser, m) →
      parser.rename Cell.rule = template.rename f)
    (h : (buildAll [] templates).run n = .ok (parsers, m)) :
    Parser.renameAll Cell.rule parsers = Parser.renameAll f templates := by
  induction templates generalizing n parsers with
  | nil =>
    cases Construct.run_pure_eq_ok_iff.1 h
    rfl
  | cons template rest ih =>
    obtain ⟨a, i, ha, h⟩ := Construct.run_bind_eq_ok_iff.1 h
    obtain ⟨as, has, rfl⟩ := Construct.run_map_eq_ok_iff.1 h
    simp only [Parser.renameAll, each template List.mem_cons_self ha,
      ih (fun other hmem => each other (List.mem_cons_of_mem _ hmem)) has]

/-- Without shared parsers a parser is built over the rules that its template mentions. -/
theorem overRules_of_build {f : Mention κ → κ} (hf : ∀ name, f (.rule name) = name)
    {template : Template κ α} {n m : Nat} {parser : BuiltParser κ α}
    (h : (build [] template).run n = .ok (parser, m)) :
    parser.overRules = template.rename f := by
  unfold Parser.overRules
  induction template using Parser.induction generalizing n m parser with
  | literal text =>
    cases Construct.run_pure_eq_ok_iff.1 h
    rfl
  | pattern expression =>
    cases Construct.run_pure_eq_ok_iff.1 h
    rfl
  | sequence first next hfirst hnext =>
    obtain ⟨a, i, ha, h⟩ := Construct.run_bind_eq_ok_iff.1 h
    obtain ⟨b, hb, rfl⟩ := Construct.run_map_eq_ok_iff.1 h
    simp only [Parser.rename, hfirst ha, hnext hb]
  | choice alternatives ih =>
    obtain ⟨parsers, hparsers, rfl⟩ := Construct.run_map_eq_ok_iff.1 h
    simp only [Parser.rename, renameAll_of_buildAll ih hparsers]
  | repetition body bounds ih =>
    obtain ⟨a, i, ha, h⟩ := Construct.run_bind_eq_ok_iff.1 h
    obtain ⟨_, _, rfl⟩ := Construct.run_map_eq_ok_iff.1 h
    simp only [Parser.rename, ih ha]
  | separated body separator bounds hbody hseparator =>
    obtain ⟨a, i, ha, h⟩ := Construct.run_bind_eq_ok_iff.1 h
    obtain ⟨_, j, _, h⟩ := Construct.run_bind_eq_ok_iff.1 h
    obtain ⟨b, hb, rfl⟩ := Construct.run_map_eq_ok_iff.1 h
    simp only [Parser.rename, hbody ha, hseparator hb]
  | option body ih =>
    obtain ⟨a, ha, rfl⟩ := Construct.run_map_eq_ok_iff.1 h
    simp only [Parser.rename, ih ha]
  | negation body ih =>
    obtain ⟨a, ha, rfl⟩ := Construct.run_map_eq_ok_iff.1 h
    simp only [Parser.rename, ih ha]
  | anchored body ih =>
    obtain ⟨a, ha, rfl⟩ := Construct.run_map_eq_ok_iff.1 h
    simp only [Parser.rename, ih ha]
  | mapped body convert ih =>
    obtain ⟨a, ha, rfl⟩ := Construct.run_map_eq_ok_iff.1 h
    simp only [Parser.rename, ih ha]
  | converted body convert ih =>
    obtain ⟨a, ha, rfl⟩ := Construct.run_map_eq_ok_iff.1 h
    simp only [Parser.rename, ih ha]
  | deferred mention =>
    cases mention with
    | rule name =>
      cases h
      simp only [Parser.rename, hf]
    | shared name => cases h

/-! ## §3. New cells -/

/-- The cell stands in one of the shared parsers. -/
def SharedParsers.Mentions (shared : SharedParsers κ α) (cell : Cell κ) : Prop :=
  ∃ entry ∈ shared, entry.2.Mentions cell

/-- The cells that a construction mentions are those of shared parsers and new ones, with numbers
from `first` up to `behind`. A new number belongs to one rule. -/
structure Fresh (shared : SharedParsers κ α) (first behind : Nat) (mentions : Cell κ → Prop) :
    Prop where
  le : first ≤ behind
  old_or_new : ∀ cell, mentions cell →
    shared.Mentions cell ∨ first ≤ cell.id ∧ cell.id < behind
  coherent : ∀ cell cell', mentions cell → mentions cell' → first ≤ cell.id →
    cell.id = cell'.id → cell.rule = cell'.rule

/-- Cells that are told apart by their numbers are so still where new ones come to them, whose
numbers are no smaller than `bound`. -/
theorem rule_eq_of_split {old new both : Cell κ → Prop} {bound : Nat}
    (hsplit : ∀ cell, both cell → old cell ∨ new cell ∧ bound ≤ cell.id)
    (hbelow : ∀ cell, old cell → cell.id < bound)
    (hold : ∀ cell cell', old cell → old cell' → cell.id = cell'.id → cell.rule = cell'.rule)
    (hnew : ∀ cell cell', new cell → new cell' → bound ≤ cell.id → cell.id = cell'.id →
      cell.rule = cell'.rule) {cell cell' : Cell κ} (h : both cell) (h' : both cell')
    (hid : cell.id = cell'.id) : cell.rule = cell'.rule := by
  rcases hsplit cell h with hcell | ⟨hcell, hlo⟩ <;>
    rcases hsplit cell' h' with hcell' | ⟨hcell', hlo'⟩
  · exact hold cell cell' hcell hcell' hid
  · have hlt := hbelow cell hcell
    omega
  · have hlt := hbelow cell' hcell'
    omega
  · exact hnew cell cell' hcell hcell' hlo hid

namespace Fresh

variable {shared : SharedParsers κ α} {first middle behind : Nat} {p q : Cell κ → Prop}

theorem mono (h : Fresh shared first behind p) (hle : ∀ cell, q cell → p cell) :
    Fresh shared first behind q where
  le := h.le
  old_or_new cell hq := h.old_or_new cell (hle cell hq)
  coherent cell cell' hq hq' := h.coherent cell cell' (hle cell hq) (hle cell' hq')

theorem nothing (h : ∀ cell, ¬ p cell) : Fresh shared first first p where
  le := Nat.le_refl first
  old_or_new cell hp := absurd hp (h cell)
  coherent cell _ hp := absurd hp (h cell)

/-- Two constructions one behind the other. -/
theorem union (hshared : ∀ cell, shared.Mentions cell → cell.id < first)
    (h₁ : Fresh shared first middle p) (h₂ : Fresh shared middle behind q) :
    Fresh shared first behind (fun cell => p cell ∨ q cell) where
  le := Nat.le_trans h₁.le h₂.le
  old_or_new cell h := by
    have hle₁ := h₁.le
    have hle₂ := h₂.le
    rcases h with hp | hq
    · rcases h₁.old_or_new cell hp with hold | ⟨hlo, hhi⟩
      · exact .inl hold
      · exact .inr ⟨hlo, by omega⟩
    · rcases h₂.old_or_new cell hq with hold | ⟨hlo, hhi⟩
      · exact .inl hold
      · exact .inr ⟨by omega, hhi⟩
  coherent cell cell' h h' hnew hid := by
    -- A new number of the first construction is below all new numbers of the second.
    have below (cell : Cell κ) (hcell : p cell ∧ first ≤ cell.id) : cell.id < middle := by
      rcases h₁.old_or_new cell hcell.1 with hold | ⟨_, hhi⟩
      · have hlt := hshared cell hold
        omega
      · exact hhi
    have above (cell : Cell κ) (hq : q cell) (hlo : first ≤ cell.id) : middle ≤ cell.id := by
      rcases h₂.old_or_new cell hq with hold | ⟨hlo, _⟩
      · have hlt := hshared cell hold
        omega
      · exact hlo
    have hsplit (cell : Cell κ) (hcell : (p cell ∨ q cell) ∧ first ≤ cell.id) :
        (p cell ∧ first ≤ cell.id) ∨ q cell ∧ middle ≤ cell.id := by
      obtain ⟨hp | hq, hlo⟩ := hcell
      · exact .inl ⟨hp, hlo⟩
      · exact .inr ⟨hq, above cell hq hlo⟩
    exact rule_eq_of_split hsplit below (fun c c' hc hc' => h₁.coherent c c' hc.1 hc'.1 hc.2)
      h₂.coherent ⟨h, hnew⟩ ⟨h', hid ▸ hnew⟩ hid

end Fresh

theorem check_run_eq_ok {bounds : Bounds} {n m : Nat}
    (h : bounds.check.run n = .ok ((), m)) : m = n :=
  (Prod.mk.inj (Bounds.check_run_eq_ok_iff.1 h).2).2

/-- A shared parser that is looked up mentions cells of shared parsers only. -/
theorem SharedParsers.mentions_of_lookup {shared : SharedParsers κ α} {name : String}
    {parser : BuiltParser κ α} (hlookup : shared.lookup name = some parser) {cell : Cell κ}
    (h : parser.Mentions cell) : shared.Mentions cell := by
  obtain ⟨before, behind, rfl, _⟩ := List.lookup_eq_some_iff.1 hlookup
  exact ⟨(name, parser), by simp, h⟩

/-- Several parsers that are built have new cells and those of shared parsers, if each of them
has. -/
theorem buildAll_fresh {shared : SharedParsers κ α} {templates : List (Template κ α)}
    {first behind : Nat} {parsers : List (BuiltParser κ α)}
    (each : ∀ template ∈ templates, ∀ {first behind : Nat} {parser : BuiltParser κ α},
      (∀ cell, shared.Mentions cell → cell.id < first) →
      (build shared template).run first = .ok (parser, behind) →
      Fresh shared first behind parser.Mentions)
    (hshared : ∀ cell, shared.Mentions cell → cell.id < first)
    (h : (buildAll shared templates).run first = .ok (parsers, behind)) :
    Fresh shared first behind (fun cell => ∃ parser ∈ parsers, parser.Mentions cell) := by
  induction templates generalizing first parsers with
  | nil =>
    obtain ⟨rfl, rfl⟩ := Prod.mk.inj (Construct.run_pure_eq_ok_iff.1 h)
    exact .nothing fun cell hmentions => by simp at hmentions
  | cons template rest ih =>
    obtain ⟨a, m, ha, h⟩ := Construct.run_bind_eq_ok_iff.1 h
    obtain ⟨as, has, rfl⟩ := Construct.run_map_eq_ok_iff.1 h
    have hfa := each template List.mem_cons_self hshared ha
    have hfas := ih (fun parser hmem => each parser (List.mem_cons_of_mem _ hmem))
      (fun cell hcell => Nat.lt_of_lt_of_le (hshared cell hcell) hfa.le) has
    apply (hfa.union hshared hfas).mono
    intro cell hmentions
    obtain ⟨parser, hmem, hcell⟩ := hmentions
    rcases List.mem_cons.1 hmem with rfl | hmem
    · exact .inl hcell
    · exact .inr ⟨parser, hmem, hcell⟩

/-- What is built has new cells and those of shared parsers. -/
theorem build_fresh {shared : SharedParsers κ α} {template : Template κ α} {first behind : Nat}
    {parser : BuiltParser κ α} (hshared : ∀ cell, shared.Mentions cell → cell.id < first)
    (h : (build shared template).run first = .ok (parser, behind)) :
    Fresh shared first behind parser.Mentions := by
  induction template using Parser.induction generalizing first behind parser with
  | literal text =>
    obtain ⟨rfl, rfl⟩ := Prod.mk.inj (Construct.run_pure_eq_ok_iff.1 h)
    exact .nothing fun cell hmentions => by cases hmentions
  | pattern expression =>
    obtain ⟨rfl, rfl⟩ := Prod.mk.inj (Construct.run_pure_eq_ok_iff.1 h)
    exact .nothing fun cell hmentions => by cases hmentions
  | sequence left right hleft hright =>
    obtain ⟨a, m, ha, h⟩ := Construct.run_bind_eq_ok_iff.1 h
    obtain ⟨b, hb, rfl⟩ := Construct.run_map_eq_ok_iff.1 h
    have hfa := hleft hshared ha
    have hfb := hright (fun cell hcell => Nat.lt_of_lt_of_le (hshared cell hcell) hfa.le) hb
    apply (hfa.union hshared hfb).mono
    intro cell hmentions
    cases hmentions with
    | first hcell => exact .inl hcell
    | next hcell => exact .inr hcell
  | choice alternatives ih =>
    obtain ⟨parsers, hparsers, rfl⟩ := Construct.run_map_eq_ok_iff.1 h
    have hall := buildAll_fresh ih hshared hparsers
    apply hall.mono
    intro cell hmentions
    cases hmentions with
    | alternative hmem hcell => exact ⟨_, hmem, hcell⟩
  | repetition body bounds ih =>
    obtain ⟨a, m, ha, h⟩ := Construct.run_bind_eq_ok_iff.1 h
    obtain ⟨_, hcheck, rfl⟩ := Construct.run_map_eq_ok_iff.1 h
    rw [check_run_eq_ok hcheck]
    apply (ih hshared ha).mono
    intro cell hmentions
    cases hmentions with
    | repetition hcell => exact hcell
  | separated body separator bounds hbody hseparator =>
    obtain ⟨a, m, ha, h⟩ := Construct.run_bind_eq_ok_iff.1 h
    obtain ⟨_, n, hcheck, h⟩ := Construct.run_bind_eq_ok_iff.1 h
    obtain ⟨b, hb, rfl⟩ := Construct.run_map_eq_ok_iff.1 h
    -- The separator is built behind the check, from the number where the body stopped.
    rw [check_run_eq_ok hcheck] at hb
    have hfa := hbody hshared ha
    have hfb := hseparator (fun cell hcell => Nat.lt_of_lt_of_le (hshared cell hcell) hfa.le) hb
    apply (hfa.union hshared hfb).mono
    intro cell hmentions
    cases hmentions with
    | body hcell => exact .inl hcell
    | separator hcell => exact .inr hcell
  | option body ih =>
    obtain ⟨a, ha, rfl⟩ := Construct.run_map_eq_ok_iff.1 h
    apply (ih hshared ha).mono
    intro cell hmentions
    cases hmentions with
    | option hcell => exact hcell
  | negation body ih =>
    obtain ⟨a, ha, rfl⟩ := Construct.run_map_eq_ok_iff.1 h
    apply (ih hshared ha).mono
    intro cell hmentions
    cases hmentions with
    | negation hcell => exact hcell
  | anchored body ih =>
    obtain ⟨a, ha, rfl⟩ := Construct.run_map_eq_ok_iff.1 h
    apply (ih hshared ha).mono
    intro cell hmentions
    cases hmentions with
    | anchored hcell => exact hcell
  | mapped body convert ih =>
    obtain ⟨a, ha, rfl⟩ := Construct.run_map_eq_ok_iff.1 h
    apply (ih hshared ha).mono
    intro cell hmentions
    cases hmentions with
    | mapped hcell => exact hcell
  | converted body convert ih =>
    obtain ⟨a, ha, rfl⟩ := Construct.run_map_eq_ok_iff.1 h
    apply (ih hshared ha).mono
    intro cell hmentions
    cases hmentions with
    | converted hcell => exact hcell
  | deferred mention =>
    cases mention with
    | rule name =>
      obtain ⟨rfl, rfl⟩ : parser = .deferred ⟨first, name⟩ ∧ behind = first + 1 := by
        cases h
        exact ⟨rfl, rfl⟩
      -- The one cell that is made takes the number at which the construction started.
      refine ⟨Nat.le_succ first, ?_, ?_⟩
      · intro cell hmentions
        cases hmentions
        exact .inr ⟨Nat.le_refl first, Nat.lt_succ_self first⟩
      · intro cell cell' hmentions hmentions' _ _
        cases hmentions
        cases hmentions'
        rfl
    | shared name =>
      cases hlookup : shared.lookup name with
      | none =>
        simp only [build, hlookup] at h
        cases h
      | some found =>
        simp only [build, hlookup] at h
        obtain ⟨rfl, rfl⟩ := Prod.mk.inj (Construct.run_pure_eq_ok_iff.1 h)
        have hold (cell : Cell κ) (hmentions : parser.Mentions cell) : shared.Mentions cell :=
          SharedParsers.mentions_of_lookup hlookup hmentions
        refine ⟨Nat.le_refl _, fun cell hmentions => .inl (hold cell hmentions), ?_⟩
        intro cell _ hmentions _ hnew _
        have hlt := hshared cell (hold cell hmentions)
        omega

end Backtrack
