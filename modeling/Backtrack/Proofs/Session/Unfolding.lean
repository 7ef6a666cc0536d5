import Backtrack.Proofs.Parser.Unfolding
import Backtrack.Proofs.Session.Roots
import Backtrack.Proofs.Session.Unmapped

/-! # Runs of unfolded grammars

    A run meets a rule where the tree mentions it, builds it, and goes on with
    what was built. Had the rule been built beforehand and put where it is
    mentioned, then the run would come to the same, but for messages. For this
    it does not matter where the mentions stand, how many of them are replaced
    and how often one inside of another.

    A tree can be built again as it is if its bounds are consistent. What a
    session has built is consistent, and so is what is put together from it.

    * `Grammar.exists_ofParsers`: a grammar for trees that are given.
    * `Grammar.unfolding_transparent`: its runs, where the trees are those of
      a session, unfolded. -/

namespace Backtrack

variable {κ ρ σ α : Type}

/-! ## §1. Consistent bounds -/

mutual

/-- No repetition in the parser has a least number above its greatest. -/
def Parser.consistent : Parser ρ α → Bool
  | .literal _ => true
  | .pattern _ => true
  | .sequence first next => first.consistent && next.consistent
  | .choice alternatives => Parser.consistentAll alternatives
  | .repetition body bounds => body.consistent && bounds.consistent
  | .separated body separator bounds =>
    body.consistent && bounds.consistent && separator.consistent
  | .option body => body.consistent
  | .negation body => body.consistent
  | .anchored body => body.consistent
  | .mapped body _ => body.consistent
  | .converted body _ => body.consistent
  | .deferred _ => true

/-- No repetition in any of the parsers has a least number above its greatest. -/
def Parser.consistentAll : List (Parser ρ α) → Bool
  | [] => true
  | parser :: rest => parser.consistent && Parser.consistentAll rest

end

/-! ## §2. What is built is consistent -/

/-- All the parsers that have been built are consistent. -/
def SharedParsers.Consistent (shared : SharedParsers κ α) : Prop :=
  ∀ entry ∈ shared, entry.2.overRules.consistent = true

theorem consistentAll_of_buildAll {shared : SharedParsers κ α} {templates : List (Template κ α)}
    {n m : Nat} {parsers : List (BuiltParser κ α)}
    (each : ∀ template ∈ templates, ∀ {n m : Nat} {parser : BuiltParser κ α},
      (build shared template).run n = .ok (parser, m) → parser.overRules.consistent = true)
    (h : (buildAll shared templates).run n = .ok (parsers, m)) :
    Parser.consistentAll (Parser.renameAll Cell.rule parsers) = true := by
  induction templates generalizing n parsers with
  | nil =>
    cases Construct.run_pure_eq_ok_iff.1 h
    rfl
  | cons template rest ih =>
    obtain ⟨first, i, hfirst, h⟩ := Construct.run_bind_eq_ok_iff.1 h
    obtain ⟨others, hothers, rfl⟩ := Construct.run_map_eq_ok_iff.1 h
    have hconsistent := each template List.mem_cons_self hfirst
    have hrest := ih (fun other hmem => each other (List.mem_cons_of_mem _ hmem)) hothers
    exact Bool.and_eq_true_iff.2 ⟨hconsistent, hrest⟩

/-- Building checks all bounds, so what is built over consistent parsers is consistent. -/
theorem consistent_of_build {shared : SharedParsers κ α} (hshared : shared.Consistent)
    {template : Template κ α} {n m : Nat} {parser : BuiltParser κ α}
    (h : (build shared template).run n = .ok (parser, m)) :
    parser.overRules.consistent = true := by
  induction template using Parser.induction generalizing n m parser with
  | literal text =>
    cases Construct.run_pure_eq_ok_iff.1 h
    rfl
  | pattern expression =>
    cases Construct.run_pure_eq_ok_iff.1 h
    rfl
  | sequence first next hfirst hnext =>
    obtain ⟨a, i, ha, h⟩ := Construct.run_bind_eq_ok_iff.1 h
    obtain ⟨b, hb, rfl⟩ := Construct.run_map_eq_ok_iff.1 h
    exact Bool.and_eq_true_iff.2 ⟨hfirst ha, hnext hb⟩
  | choice alternatives ih =>
    obtain ⟨parsers, hparsers, rfl⟩ := Construct.run_map_eq_ok_iff.1 h
    exact consistentAll_of_buildAll ih hparsers
  | repetition body bounds ih =>
    obtain ⟨a, i, ha, h⟩ := Construct.run_bind_eq_ok_iff.1 h
    obtain ⟨_, hcheck, rfl⟩ := Construct.run_map_eq_ok_iff.1 h
    exact Bool.and_eq_true_iff.2 ⟨ih ha, (Bounds.check_run_eq_ok_iff.1 hcheck).1⟩
  | separated body separator bounds hbody hseparator =>
    obtain ⟨a, i, ha, h⟩ := Construct.run_bind_eq_ok_iff.1 h
    obtain ⟨_, j, hcheck, h⟩ := Construct.run_bind_eq_ok_iff.1 h
    obtain ⟨b, hb, rfl⟩ := Construct.run_map_eq_ok_iff.1 h
    have hbounds : bounds.consistent = true := (Bounds.check_run_eq_ok_iff.1 hcheck).1
    exact Bool.and_eq_true_iff.2
      ⟨Bool.and_eq_true_iff.2 ⟨hbody ha, hbounds⟩, hseparator hb⟩
  | option body ih | negation body ih | anchored body ih | mapped body convert ih
  | converted body convert ih =>
    obtain ⟨a, ha, rfl⟩ := Construct.run_map_eq_ok_iff.1 h
    have hbody := ih ha
    exact hbody
  | deferred mention =>
    cases mention with
    | rule name =>
      cases h
      rfl
    | shared name =>
      simp only [build] at h
      cases hlookup : shared.lookup name with
      | none =>
        rw [hlookup] at h
        cases h
      | some found =>
        rw [hlookup] at h
        cases Construct.run_pure_eq_ok_iff.1 h
        obtain ⟨before, behind, hentries, _⟩ := List.lookup_eq_some_iff.1 hlookup
        exact hshared (name, parser) (by simp [hentries])

theorem consistent_of_buildShared {built shared : SharedParsers κ α}
    {templates : List (String × Template κ α)} {n m : Nat} (hbuilt : built.Consistent)
    (h : (buildShared built templates).run n = .ok (shared, m)) : shared.Consistent := by
  induction templates generalizing built n with
  | nil =>
    cases Construct.run_pure_eq_ok_iff.1 h
    exact hbuilt
  | cons entry rest ih =>
    obtain ⟨name, template⟩ := entry
    obtain ⟨parser, i, hparser, h⟩ := Construct.run_bind_eq_ok_iff.1 h
    exact ih (List.forall_mem_cons.2 ⟨consistent_of_build hbuilt hparser, hbuilt⟩) h

/-- Whatever a session has built, or builds when a rule is met, is consistent. -/
theorem Grammar.Reaches.consistent [DecidableEq κ] {grammar : Grammar κ α} {session : Session κ α}
    {store : Store κ α} (h : grammar.Reaches session store) :
    session.parser.consistent = true ∧
      ∀ name parser, session.rule? name = some parser → parser.consistent = true := by
  obtain ⟨first, hstart⟩ := h.exists_start
  obtain ⟨m, hbuilt, hroot, _⟩ := Grammar.exists_of_start hstart
  have hnone : SharedParsers.Consistent ([] : SharedParsers κ α) := nofun
  have hshared : session.shared.Consistent := consistent_of_buildShared hnone hbuilt
  refine ⟨consistent_of_build hshared hroot, fun name parser hrule => ?_⟩
  unfold Session.rule? at hrule
  split at hrule
  · cases hrule
  · split at hrule
    · next hbuild =>
      cases hrule
      exact consistent_of_build hshared hbuild
    · cases hrule

theorem Parser.consistentAll_of_zip {parsers : List (Parser ρ α)} {parsers' : List (Parser σ α)}
    (hlength : parsers.length = parsers'.length)
    (each : ∀ pair ∈ parsers.zip parsers', pair.1.consistent = true → pair.2.consistent = true)
    (h : Parser.consistentAll parsers = true) : Parser.consistentAll parsers' = true := by
  induction parsers generalizing parsers' with
  | nil =>
    cases parsers' with
    | nil => rfl
    | cons _ _ => cases hlength
  | cons first rest ih =>
    cases parsers' with
    | nil => rfl
    | cons first' rest' =>
      obtain ⟨hfirst, hrest⟩ := List.forall_mem_cons.1 each
      obtain ⟨h₁, h₂⟩ := Bool.and_eq_true_iff.1 h
      exact Bool.and_eq_true_iff.2 ⟨hfirst h₁, ih (Nat.succ.inj hlength) hrest h₂⟩

/-- What an unfolded parser is put together from decides whether its bounds are consistent. -/
theorem Parser.Unfolds.consistent {rules : ρ → Option (Parser ρ α)} {origin : σ → ρ}
    {parser : Parser ρ α} {parser' : Parser σ α} (h : parser.Unfolds rules origin parser')
    (hrules : ∀ name parser, rules name = some parser → parser.consistent = true)
    (hparser : parser.consistent = true) : parser'.consistent = true := by
  induction h with
  | literal | pattern | deferred => rfl
  | sequence _ _ hfirst hnext =>
    obtain ⟨h₁, h₂⟩ := Bool.and_eq_true_iff.1 hparser
    exact Bool.and_eq_true_iff.2 ⟨hfirst h₁, hnext h₂⟩
  | choice hlength _ ih => exact Parser.consistentAll_of_zip hlength ih hparser
  | repetition bounds _ ih =>
    obtain ⟨h₁, h₂⟩ := Bool.and_eq_true_iff.1 hparser
    exact Bool.and_eq_true_iff.2 ⟨ih h₁, h₂⟩
  | separated bounds _ _ hbody hseparator =>
    obtain ⟨h₁, h₃⟩ := Bool.and_eq_true_iff.1 hparser
    obtain ⟨h₁, h₂⟩ := Bool.and_eq_true_iff.1 h₁
    exact Bool.and_eq_true_iff.2 ⟨Bool.and_eq_true_iff.2 ⟨hbody h₁, h₂⟩, hseparator h₃⟩
  | option _ ih | negation _ ih | anchored _ ih | mapped _ _ ih | converted _ _ ih =>
    exact ih hparser
  | unfolded hrule _ ih => exact ih (hrules _ _ hrule)

/-! ## §3. Consistent trees can be built -/

theorem buildsAll_of_consistentAll {parsers : List (Parser κ α)}
    (each : ∀ parser ∈ parsers, parser.consistent = true →
      Builds [] (parser.rename Mention.rule) parser)
    (h : Parser.consistentAll parsers = true) :
    List.Forall₂ (Builds []) (Parser.renameAll Mention.rule parsers) parsers := by
  induction parsers with
  | nil => exact .nil
  | cons parser rest ih =>
    obtain ⟨h₁, h₂⟩ := Bool.and_eq_true_iff.1 h
    exact .cons (each parser List.mem_cons_self h₁)
      (ih (fun other hmem => each other (List.mem_cons_of_mem _ hmem)) h₂)

/-- A consistent parser over rules can be written down as it is, and what is built is itself. -/
theorem builds_of_consistent {parser : Parser κ α} (h : parser.consistent = true) :
    Builds [] (parser.rename Mention.rule) parser := by
  induction parser using Parser.induction with
  | literal text => exact fun n => ⟨_, n, rfl, rfl⟩
  | pattern expression => exact fun n => ⟨_, n, rfl, rfl⟩
  | deferred name => exact fun n => ⟨.deferred ⟨n, name⟩, n + 1, rfl, rfl⟩
  | sequence first next hfirst hnext =>
    obtain ⟨h₁, h₂⟩ := Bool.and_eq_true_iff.1 h
    exact (hfirst h₁).sequence (hnext h₂)
  | choice alternatives ih => exact .choice (buildsAll_of_consistentAll ih h)
  | repetition body bounds ih =>
    obtain ⟨h₁, h₂⟩ := Bool.and_eq_true_iff.1 h
    exact (ih h₁).repetition h₂
  | separated body separator bounds hbody hseparator =>
    obtain ⟨h₁, h₃⟩ := Bool.and_eq_true_iff.1 h
    obtain ⟨h₁, h₂⟩ := Bool.and_eq_true_iff.1 h₁
    exact (hbody h₁).separated (hseparator h₃) h₂
  | option body ih => exact (ih h).option
  | negation body ih => exact (ih h).negation
  | anchored body ih => exact (ih h).anchored
  | mapped body convert ih => exact (ih h).mapped
  | converted body convert ih => exact (ih h).converted

/-- The grammar that stands for trees as they are. Nothing is shared in it. -/
def Grammar.ofParsers (rules : List (κ × Parser κ α)) (root : Parser κ α) : Grammar κ α where
  rules := rules.map fun entry => (entry.1, entry.2.rename .rule)
  root := root.rename .rule

theorem lookup_map_rename [BEq κ] (rules : List (κ × Parser κ α)) (name : κ) :
    (rules.map fun entry => (entry.1, entry.2.rename Mention.rule)).lookup name =
      (rules.lookup name).map (Parser.rename Mention.rule) := by
  induction rules with
  | nil => rfl
  | cons entry rest ih =>
    obtain ⟨key, parser⟩ := entry
    simp only [List.map_cons, List.lookup_cons, ih]
    cases name == key with
    | true => rfl
    | false => rfl

/-- A grammar of consistent trees starts, and what it builds are these trees. -/
theorem Grammar.exists_ofParsers [DecidableEq κ] {rules : List (κ × Parser κ α)}
    {root : Parser κ α} (hroot : root.consistent = true)
    (hrules : ∀ name parser, rules.lookup name = some parser → parser.consistent = true) :
    ∃ session store, (Grammar.ofParsers rules root).start = .ok (session, store) ∧
      session.parser = root ∧ ∀ name, session.rule? name = rules.lookup name := by
  obtain ⟨built, m, hbuilt, rfl⟩ := builds_of_consistent hroot 0
  refine ⟨⟨(Grammar.ofParsers rules built.overRules).rules, [], built⟩, { cells := m }, ?_, rfl, ?_⟩
  · have hconstruct : (Grammar.ofParsers rules built.overRules).construct.run 0 =
        .ok (([], built), m) :=
      Construct.run_bind_eq_ok_iff.2
        ⟨[], 0, rfl, Construct.run_map_eq_ok_iff.2 ⟨built, hbuilt, rfl⟩⟩
    rw [Grammar.start_eq_map, hconstruct]
    rfl
  · intro name
    unfold Session.rule?
    simp only [Grammar.ofParsers, lookup_map_rename]
    cases hlookup : rules.lookup name with
    | none => rfl
    | some parser =>
      obtain ⟨rule, k, hrule, hover⟩ := builds_of_consistent (hrules name parser hlookup) 0
      simp only [Option.map_some, hrule, hover]

/-! ## §4. Unfolded sessions -/

/-- The trees are those of the session, unfolded: the first of them is what the session runs, and
those in the list are what it builds where it meets the rules they come from. -/
structure Session.Unfolds [DecidableEq κ] [BEq σ] (session : Session κ α) (origin : σ → κ)
    (rules : List (σ × Parser σ α)) (root : Parser σ α) : Prop where
  root : session.parser.Unfolds session.rule? origin root
  rules : ∀ name, Option.Rel (Parser.Unfolds session.rule? origin) (session.rule? (origin name))
    (rules.lookup name)

/-- **Unfolding is transparent.** Take what a grammar has built, and replace any mentions of rules
by what is built for them, in the root and in the rules, and again inside of what was put there.
There is a grammar that builds just these trees. And whichever grammar builds them, from whatever
stores that earlier runs left behind, on every input and at every index: if a run of the one
returns, then so does the run of the other, with the same match or with a failure of the same kind
at the same index. -/
theorem Grammar.unfolding_transparent [DecidableEq κ] [DecidableEq σ] {grammar : Grammar κ α}
    {session : Session κ α} {store : Store κ α} (h : grammar.Reaches session store)
    {origin : σ → κ} {rules : List (σ × Parser σ α)} {root : Parser σ α}
    (hunfolds : session.Unfolds origin rules root) :
    (∃ unfolded first, (Grammar.ofParsers rules root).start = .ok (unfolded, first) ∧
      unfolded.parser = root ∧ ∀ name, unfolded.rule? name = rules.lookup name) ∧
    ∀ (grammar' : Grammar σ α) (unfolded : Session σ α) (store' : Store σ α),
      grammar'.Reaches unfolded store' → unfolded.parser = root →
      (∀ name, unfolded.rule? name = rules.lookup name) → ∀ input index,
        (∀ outcome, (session.run store input index).1 = .ok outcome →
          ∃ outcome', (unfolded.run store' input index).1 = .ok outcome' ∧
            outcome.SameButMessage outcome') ∧
        ∀ outcome', (unfolded.run store' input index).1 = .ok outcome' →
          ∃ outcome, (session.run store input index).1 = .ok outcome ∧
            outcome.SameButMessage outcome' := by
  constructor
  · obtain ⟨hroot, hrules⟩ := h.consistent
    refine Grammar.exists_ofParsers (hunfolds.root.consistent hrules hroot) ?_
    intro name parser hlookup
    have hname := hunfolds.rules name
    rw [hlookup] at hname
    generalize hrule : session.rule? (origin name) = found at hname
    cases hname with
    | some hparser => exact hparser.consistent hrules (hrules _ _ hrule)
  · intro grammar' unfolded store' h' hroot hrules input index
    have hnames : ∀ name, Option.Rel (Parser.Unfolds session.rule? origin)
        (session.rule? (origin name)) (unfolded.rule? name) := by
      intro name
      rw [hrules]
      exact hunfolds.rules name
    simp only [h.run_eq_ok_iff, h'.run_eq_ok_iff, hroot]
    exact hunfolds.root.transparent hnames index

/-- A pair of parentheses around nothing or around such a pair. -/
def nestedRule : Parser Unit Unit :=
  .sequence (.literal ['(']) (.sequence (.option (.deferred ())) (.literal [')']))

/-- Nested parentheses, or a mark. -/
def nestedOrMark : Grammar Unit Unit where
  rules := [((), nestedRule.rename .rule)]
  root := .anchored (.choice [.deferred (.rule ()), .literal ['x']])

/-- The session that they start with. -/
def nestedSession : Session Unit Unit where
  rules := nestedOrMark.rules
  shared := []
  root := .anchored (.choice [.deferred ⟨0, ()⟩, .literal ['x']])

/-- The same with the rule where it is mentioned, once inside the other. -/
def nestedUnfolded : Parser Unit Unit :=
  .anchored (.choice [.sequence (.literal ['('])
    (.sequence (.option nestedRule) (.literal [')'])), .literal ['x']])

theorem nestedSession_unfolds : nestedSession.Unfolds id [((), nestedRule)] nestedUnfolded := by
  have hrule : nestedSession.rule? () = some nestedRule := rfl
  have hkept : Parser.Unfolds nestedSession.rule? id nestedRule nestedRule :=
    .sequence (.literal _) (.sequence (.option (.deferred ())) (.literal _))
  have hinner : Parser.Unfolds nestedSession.rule? id (.deferred ()) nestedRule :=
    .unfolded hrule hkept
  have houter : Parser.Unfolds nestedSession.rule? id (.deferred ()) (.sequence (.literal ['('])
      (.sequence (.option nestedRule) (.literal [')']))) :=
    .unfolded hrule (.sequence (.literal _) (.sequence (.option hinner) (.literal _)))
  refine ⟨.anchored (.choice rfl fun pair hmem => ?_), fun _ => .some hkept⟩
  rcases List.mem_cons.1 hmem with rfl | hmem
  · exact houter
  · obtain rfl := List.mem_singleton.1 hmem
    exact .literal ['x']

/-- Where there is neither, both runs fail alike, while their messages show different trees. -/
theorem unfolding_transparent_nested :
    ∃ unfolded first,
      nestedOrMark.Reaches nestedSession ⟨1, [], []⟩ ∧
      nestedSession.Unfolds id [((), nestedRule)] nestedUnfolded ∧
      (Grammar.ofParsers [((), nestedRule)] nestedUnfolded).Reaches unfolded first ∧
      (nestedSession.run ⟨1, [], []⟩ ['?'] 0).1 =
        .ok (.failure (.noAlternative ["[Lazy]", "\"x\""] 0)) ∧
      ∃ failure, (unfolded.run first ['?'] 0).1 = .ok (.failure failure) ∧
        failure.kind = .parsing ∧ failure.index = 0 := by
  have hreach : nestedOrMark.Reaches nestedSession ⟨1, [], []⟩ := .start rfl
  have hrun : (nestedSession.run ⟨1, [], []⟩ ['?'] 0).1 =
      .ok (.failure (.noAlternative ["[Lazy]", "\"x\""] 0)) := rfl
  obtain ⟨⟨unfolded, first, hstart, hroot, hrules⟩, hruns⟩ :=
    Grammar.unfolding_transparent hreach nestedSession_unfolds
  have hreach' : (Grammar.ofParsers [((), nestedRule)] nestedUnfolded).Reaches unfolded first :=
    .start hstart
  obtain ⟨outcome, hrun', hsame⟩ :=
    (hruns _ unfolded first hreach' hroot hrules ['?'] 0).1 _ hrun
  cases outcome with
  | success success => cases hsame
  | failure failure =>
    exact ⟨unfolded, first, hreach, nestedSession_unfolds, hreach', hrun, failure, hrun',
      hsame.1.symm, hsame.2.symm⟩

end Backtrack
