import Mathlib.Data.List.Forall2
import Backtrack.Proofs.Session.Life

/-! # One grammar with several roots

    The same rules and the same shared parsers serve more than one parser. A
    grammar whose root is put together from the root of another one, be it
    once or several times, is built whenever the parts are and the bounds are
    consistent. Each copy of a part has cells of its own, and all of them
    stand for the same rules.

    * `Builds`: what a written parser becomes, from any number of cells on.
    * `Grammar.Reaches.starts_around`: the grammar with the new root starts.
    * `Grammar.Reaches.parser_around`: what its sessions run. -/

namespace Backtrack

variable {κ α : Type}

/-! ## §1. Parts that can be built -/

/-- The written parser can be built, from any number of cells on, and what is built is this parser
over rules. -/
def Builds (shared : SharedParsers κ α) (template : Template κ α) (parser : Parser κ α) : Prop :=
  ∀ n, ∃ built m, (build shared template).run n = .ok (built, m) ∧ built.overRules = parser

namespace Builds

variable {shared : SharedParsers κ α} {first next body separator : Template κ α}
  {first' next' body' separator' : Parser κ α} {bounds : Bounds}

/-- What has been built once can be built from any other number on. -/
theorem of_run {n m : Nat} {built : BuiltParser κ α}
    (h : (build shared body).run n = .ok (built, m)) : Builds shared body built.overRules := by
  intro k
  have halike := build_alike shared body n k
  rw [h] at halike
  cases hk : (build shared body).run k with
  | error stop =>
    rw [hk] at halike
    cases halike
  | ok other =>
    rw [hk] at halike
    exact ⟨other.1, other.2, rfl, (Except.ok.inj halike).symm⟩

theorem mapped {convert : Value α → Value α} (hbody : Builds shared body body') :
    Builds shared (.mapped body convert) (.mapped body' convert) := by
  intro n
  obtain ⟨a, m, ha, rfl⟩ := hbody n
  exact ⟨.mapped a convert, m, Construct.run_map_eq_ok_iff.2 ⟨a, ha, rfl⟩, rfl⟩

theorem converted {convert : Value α → Except String (Value α)} (hbody : Builds shared body body') :
    Builds shared (.converted body convert) (.converted body' convert) := by
  intro n
  obtain ⟨a, m, ha, rfl⟩ := hbody n
  exact ⟨.converted a convert, m, Construct.run_map_eq_ok_iff.2 ⟨a, ha, rfl⟩, rfl⟩

theorem option (hbody : Builds shared body body') :
    Builds shared (.option body) (.option body') := by
  intro n
  obtain ⟨a, m, ha, rfl⟩ := hbody n
  exact ⟨.option a, m, Construct.run_map_eq_ok_iff.2 ⟨a, ha, rfl⟩, rfl⟩

theorem negation (hbody : Builds shared body body') :
    Builds shared (.negation body) (.negation body') := by
  intro n
  obtain ⟨a, m, ha, rfl⟩ := hbody n
  exact ⟨.negation a, m, Construct.run_map_eq_ok_iff.2 ⟨a, ha, rfl⟩, rfl⟩

theorem anchored (hbody : Builds shared body body') :
    Builds shared (.anchored body) (.anchored body') := by
  intro n
  obtain ⟨a, m, ha, rfl⟩ := hbody n
  exact ⟨.anchored a, m, Construct.run_map_eq_ok_iff.2 ⟨a, ha, rfl⟩, rfl⟩

theorem sequence (hfirst : Builds shared first first') (hnext : Builds shared next next') :
    Builds shared (.sequence first next) (.sequence first' next') := by
  intro n
  obtain ⟨a, i, ha, rfl⟩ := hfirst n
  obtain ⟨b, m, hb, rfl⟩ := hnext i
  exact ⟨.sequence a b, m, Construct.run_bind_eq_ok_iff.2
    ⟨a, i, ha, Construct.run_map_eq_ok_iff.2 ⟨b, hb, rfl⟩⟩, rfl⟩

/-- A choice can be built if each of its alternatives can. -/
theorem choice {templates : List (Template κ α)} {parsers : List (Parser κ α)}
    (h : List.Forall₂ (Builds shared) templates parsers) :
    Builds shared (.choice templates) (.choice parsers) := by
  have hall (n : Nat) : ∃ built m, (buildAll shared templates).run n = .ok (built, m) ∧
      Parser.renameAll Cell.rule built = parsers := by
    induction h generalizing n with
    | nil => exact ⟨[], n, rfl, rfl⟩
    | cons hfirst _ ih =>
      obtain ⟨first, i, hbuilt, rfl⟩ := hfirst n
      obtain ⟨rest, m, hrest, rfl⟩ := ih i
      exact ⟨first :: rest, m, Construct.run_bind_eq_ok_iff.2
        ⟨first, i, hbuilt, Construct.run_map_eq_ok_iff.2 ⟨rest, hrest, rfl⟩⟩, rfl⟩
  intro n
  obtain ⟨built, m, hbuilt, rfl⟩ := hall n
  exact ⟨.choice built, m, Construct.run_map_eq_ok_iff.2 ⟨built, hbuilt, rfl⟩, rfl⟩

/-- A parser can be built with copies of another behind it. -/
theorem sequenceAll (hfirst : Builds shared first first') (hbody : Builds shared body body')
    (n : Nat) : Builds shared (Parser.sequenceAll first (List.replicate n body))
      (Parser.sequenceAll first' (List.replicate n body')) := by
  induction n generalizing first first' with
  | zero => exact hfirst
  | succ n ih => exact ih (hfirst.sequence hbody)

theorem repetition (hbody : Builds shared body body') (hbounds : bounds.consistent = true) :
    Builds shared (.repetition body bounds) (.repetition body' bounds) := by
  intro n
  obtain ⟨a, m, ha, rfl⟩ := hbody n
  exact ⟨.repetition a bounds, m, Construct.run_bind_eq_ok_iff.2
    ⟨a, m, ha, Construct.run_map_eq_ok_iff.2
      ⟨(), Bounds.check_run_eq_ok_iff.2 ⟨hbounds, rfl⟩, rfl⟩⟩, rfl⟩

theorem separated (hbody : Builds shared body body')
    (hseparator : Builds shared separator separator') (hbounds : bounds.consistent = true) :
    Builds shared (.separated body separator bounds) (.separated body' separator' bounds) := by
  intro n
  obtain ⟨a, i, ha, rfl⟩ := hbody n
  obtain ⟨b, m, hb, rfl⟩ := hseparator i
  exact ⟨.separated a b bounds, m, Construct.run_bind_eq_ok_iff.2
    ⟨a, i, ha, Construct.run_bind_eq_ok_iff.2
      ⟨(), i, Bounds.check_run_eq_ok_iff.2 ⟨hbounds, rfl⟩,
        Construct.run_map_eq_ok_iff.2 ⟨b, hb, rfl⟩⟩⟩, rfl⟩

/-! A parser that is built from parts is built from what its parts are built to. -/

/-- There is only one parser that is built. -/
theorem unique (h : Builds shared body body') {other : Parser κ α} (h' : Builds shared body other) :
    body' = other := by
  obtain ⟨a, m, ha, rfl⟩ := h 0
  obtain ⟨b, k, hb, rfl⟩ := h' 0
  have hboth : (a, m) = (b, k) := Except.ok.inj (ha.symm.trans hb)
  rw [(Prod.mk.inj hboth).1]

theorem exists_of_anchored {parser : Parser κ α} (h : Builds shared (.anchored body) parser) :
    ∃ inner, Builds shared body inner ∧ parser = .anchored inner := by
  obtain ⟨built, m, hbuilt, rfl⟩ := h 0
  obtain ⟨a, ha, rfl⟩ := Construct.run_map_eq_ok_iff.1 hbuilt
  exact ⟨a.overRules, of_run ha, rfl⟩

theorem exists_of_sequence {parser : Parser κ α} (h : Builds shared (.sequence first next) parser) :
    ∃ front back, Builds shared first front ∧ Builds shared next back ∧
      parser = .sequence front back := by
  obtain ⟨built, m, hbuilt, rfl⟩ := h 0
  obtain ⟨a, i, ha, hbuilt⟩ := Construct.run_bind_eq_ok_iff.1 hbuilt
  obtain ⟨b, hb, rfl⟩ := Construct.run_map_eq_ok_iff.1 hbuilt
  exact ⟨a.overRules, b.overRules, of_run ha, of_run hb, rfl⟩

theorem exists_of_choice {templates : List (Template κ α)} {parser : Parser κ α}
    (h : Builds shared (.choice templates) parser) :
    ∃ parsers, List.Forall₂ (Builds shared) templates parsers ∧ parser = .choice parsers := by
  have hall (n m : Nat) (built : List (BuiltParser κ α))
      (hbuilt : (buildAll shared templates).run n = .ok (built, m)) :
      List.Forall₂ (Builds shared) templates (Parser.renameAll Cell.rule built) := by
    clear h
    induction templates generalizing n built with
    | nil =>
      cases Construct.run_pure_eq_ok_iff.1 hbuilt
      exact .nil
    | cons template rest ih =>
      obtain ⟨a, i, ha, hbuilt⟩ := Construct.run_bind_eq_ok_iff.1 hbuilt
      obtain ⟨others, hothers, rfl⟩ := Construct.run_map_eq_ok_iff.1 hbuilt
      exact .cons (of_run ha) (ih i others hothers)
  obtain ⟨built, m, hbuilt, rfl⟩ := h 0
  obtain ⟨parsers, hparsers, rfl⟩ := Construct.run_map_eq_ok_iff.1 hbuilt
  exact ⟨Parser.renameAll Cell.rule parsers, hall 0 m parsers hparsers, rfl⟩

end Builds

/-- The written parser can be built. -/
def Buildable (shared : SharedParsers κ α) (template : Template κ α) : Prop :=
  ∃ parser, Builds shared template parser

section Buildable

variable {shared : SharedParsers κ α} {first next body : Template κ α}
  {templates : List (Template κ α)}

theorem buildable_anchored_iff : Buildable shared (.anchored body) ↔ Buildable shared body := by
  constructor
  · intro h
    obtain ⟨parser, hparser⟩ := h
    obtain ⟨inner, hinner, _⟩ := hparser.exists_of_anchored
    exact ⟨inner, hinner⟩
  · intro h
    obtain ⟨inner, hinner⟩ := h
    exact ⟨.anchored inner, hinner.anchored⟩

theorem buildable_sequence_iff :
    Buildable shared (.sequence first next) ↔ Buildable shared first ∧ Buildable shared next := by
  constructor
  · intro h
    obtain ⟨parser, hparser⟩ := h
    obtain ⟨front, back, hfront, hback, _⟩ := hparser.exists_of_sequence
    exact ⟨⟨front, hfront⟩, back, hback⟩
  · intro h
    obtain ⟨⟨front, hfront⟩, back, hback⟩ := h
    exact ⟨.sequence front back, hfront.sequence hback⟩

theorem exists_forall₂_builds (h : ∀ template ∈ templates, Buildable shared template) :
    ∃ parsers, List.Forall₂ (Builds shared) templates parsers := by
  induction templates with
  | nil => exact ⟨[], .nil⟩
  | cons template rest ih =>
    obtain ⟨⟨parser, hparser⟩, hrest⟩ := List.forall_mem_cons.1 h
    obtain ⟨parsers, hparsers⟩ := ih hrest
    exact ⟨parser :: parsers, .cons hparser hparsers⟩

theorem buildable_of_mem {parsers : List (Parser κ α)}
    (h : List.Forall₂ (Builds shared) templates parsers) :
    ∀ template ∈ templates, Buildable shared template := by
  induction h with
  | nil =>
    intro template hmem
    cases hmem
  | cons hfirst _ ih => exact List.forall_mem_cons.2 ⟨⟨_, hfirst⟩, ih⟩

theorem buildable_choice_iff :
    Buildable shared (.choice templates) ↔ ∀ template ∈ templates, Buildable shared template := by
  constructor
  · intro h
    obtain ⟨parser, hparser⟩ := h
    obtain ⟨parsers, hparsers, _⟩ := hparser.exists_of_choice
    exact buildable_of_mem hparsers
  · intro h
    obtain ⟨parsers, hparsers⟩ := exists_forall₂_builds h
    exact ⟨.choice parsers, .choice hparsers⟩

end Buildable

/-! ## §2. Sessions with another root -/

/-- The grammar can be built. -/
def Grammar.Starts (grammar : Grammar κ α) : Prop :=
  ∃ session store, grammar.start = .ok (session, store)

/-- The grammar that runs its root inside something else. -/
def Grammar.around (grammar : Grammar κ α) (wrap : Template κ α → Template κ α) : Grammar κ α :=
  { grammar with root := wrap grammar.root }

section Roots

variable [DecidableEq κ] {grammar : Grammar κ α} {session session' : Session κ α}
  {store store' : Store κ α} {wrap : Template κ α → Template κ α} {parser : Parser κ α}

/-- The root of a grammar that has been started can be built. -/
theorem Grammar.Reaches.builds (h : grammar.Reaches session store) :
    Builds session.shared grammar.root session.parser := by
  obtain ⟨first, hstart⟩ := h.exists_start
  obtain ⟨_, _, hroot, _, _⟩ := Grammar.exists_of_start hstart
  exact .of_run hroot

/-- A grammar with another root shares its parsers with the first. -/
theorem Grammar.Reaches.shared_around (h : grammar.Reaches session store)
    (h' : (grammar.around wrap).Reaches session' store') :
    session'.shared = session.shared ∧ session'.rule? = session.rule? := by
  obtain ⟨first, hstart⟩ := h.exists_start
  obtain ⟨first', hstart'⟩ := h'.exists_start
  obtain ⟨m, hshared, _, hrules, _⟩ := Grammar.exists_of_start hstart
  obtain ⟨m', hshared', _, hrules', _⟩ := Grammar.exists_of_start hstart'
  have hboth : (session'.shared, m') = (session.shared, m) :=
    Except.ok.inj (hshared'.symm.trans hshared)
  obtain ⟨hsame, _⟩ := Prod.mk.inj hboth
  refine ⟨hsame, ?_⟩
  funext name
  unfold Session.rule?
  rw [hsame, hrules', hrules]
  rfl

/-- What a session runs whose root is put together from parts that can be built. -/
theorem Grammar.Reaches.parser_around (h : grammar.Reaches session store)
    (h' : (grammar.around wrap).Reaches session' store')
    (hbuilds : Builds session.shared (wrap grammar.root) parser) :
    session'.parser = parser ∧ session'.rule? = session.rule? := by
  obtain ⟨hshared, hrules⟩ := h.shared_around h'
  refine ⟨?_, hrules⟩
  obtain ⟨first', hstart'⟩ := h'.exists_start
  obtain ⟨m, _, hroot, _, _⟩ := Grammar.exists_of_start hstart'
  have hroot : (build session'.shared (wrap grammar.root)).run m =
    .ok (session'.root, first'.cells) := hroot
  rw [hshared] at hroot
  obtain ⟨built, k, hbuilt, hover⟩ := hbuilds m
  have hboth : (built, k) = (session'.root, first'.cells) :=
    Except.ok.inj (hbuilt.symm.trans hroot)
  unfold Session.parser
  rw [← (Prod.mk.inj hboth).1]
  exact hover

/-- A grammar starts whose root is put together from parts that can be built. -/
theorem Grammar.Reaches.starts_around (h : grammar.Reaches session store)
    (hbuilds : Builds session.shared (wrap grammar.root) parser) :
    (grammar.around wrap).Starts := by
  obtain ⟨first, hstart⟩ := h.exists_start
  obtain ⟨m, hshared, _, _, _⟩ := Grammar.exists_of_start hstart
  obtain ⟨built, k, hbuilt, _⟩ := hbuilds m
  have hconstruct : (grammar.around wrap).construct.run 0 = .ok ((session.shared, built), k) :=
    Construct.run_bind_eq_ok_iff.2
      ⟨session.shared, m, hshared, Construct.run_map_eq_ok_iff.2 ⟨built, hbuilt, rfl⟩⟩
  refine ⟨⟨grammar.rules, session.shared, built⟩, { cells := k }, ?_⟩
  rw [Grammar.start_eq_map, hconstruct]
  rfl

end Roots

end Backtrack
