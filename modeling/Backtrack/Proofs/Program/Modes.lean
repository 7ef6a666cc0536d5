import Backtrack.Proofs.Console.Transcript
import Backtrack.Proofs.Program.Limit

/-! # Expressions as arguments and as lines

    Expressions can be given to the program as arguments or be entered at its
    console, each on a line of its own. Either way all of them are evaluated,
    one behind the other, by one parser, and none of them makes a difference
    to those behind it: what is written about an expression is what a fresh
    parser would have written about it.

    * `exists_performs_evaluateAll`: expressions that are given.
    * `transcript_map_encode`: expressions that are entered.
    * `World.modes_agree`: the program. -/

namespace Backtrack

open Backtrack.Language (RuleName)

/-! ## §1. Expressions as lines -/

/-- The input in which every text is a line. -/
def linesOf (texts : List Text) : List UInt8 :=
  texts.flatMap fun text => Text.encode text ++ [10]

/-- Texts without line feeds are the lines of their input. -/
theorem splitLines_linesOf {texts : List Text} (h : ∀ text ∈ texts, '\n' ∉ text) :
    splitLines (linesOf texts) = texts.map Text.encode := by
  induction texts with
  | nil => rfl
  | cons text rest ih =>
    obtain ⟨htext, hrest⟩ := List.forall_mem_cons.1 h
    have hfeed : 10 ∉ Text.encode text :=
      fun hmem => htext (@Text.mem_of_ascii_mem_encode text '\n' (by decide) hmem)
    have hinput : linesOf (text :: rest) = Text.encode text ++ 10 :: linesOf rest := by
      simp [linesOf]
    rw [hinput, splitLines_append_feed, List.splitOn_eq_singleton hfeed, ih hrest]
    rfl

/-- A text that is evaluated as it is when it is entered as a line. -/
structure Settings.Enters (settings : Settings) (text : Text) : Prop where
  nonempty : text ≠ []
  unbroken : '\n' ∉ text
  trimmed : Text.trim text = text
  goesOn : settings.isExit text = false

namespace Console

/-- What a session writes that is entered the texts, one on each line. -/
def entries (session : Session RuleName Expression) (fresh : Store RuleName Expression)
    (settings : Settings) (texts : List Text) : List UInt8 :=
  texts.flatMap (fun text => Text.encode settings.prompt ++ written session fresh text) ++
    Text.encode settings.prompt ++ [10]

section Lines

variable {grammar : Grammar RuleName Expression} {session : Session RuleName Expression}
  {fresh : Store RuleName Expression} {settings : Settings} {console : Console} {text : Text}
  {texts : List Text}

theorem lineOf?_encode (h : settings.Enters text) : lineOf? (Text.encode text) = some text := by
  unfold lineOf?
  rw [Text.decode?_eq_some_iff.2 rfl, Option.map_some, h.trimmed]

theorem goesOn_encode (h : settings.Enters text) : goesOn settings (Text.encode text) = true := by
  unfold goesOn
  rw [lineOf?_encode h]
  simp [h.goesOn]

theorem evaluated?_encode (h : settings.Enters text) :
    evaluated? (Text.encode text) = some text := by
  unfold evaluated?
  rw [lineOf?_encode h]
  simp [Option.filter, h.nonempty]

/-- Behind the prompt of each line stands what is written about the text. -/
theorem transcript_map_encode (h : ∀ text ∈ texts, settings.Enters text) :
    transcript session fresh settings (texts.map Text.encode) =
      entries session fresh settings texts := by
  induction texts with
  | nil => rfl
  | cons text rest ih =>
    obtain ⟨htext, hrest⟩ := List.forall_mem_cons.1 h
    rw [List.map_cons, transcript_cons_of_goesOn (goesOn_encode htext), evaluated?_encode htext,
      ih hrest]
    simp only [entries, Option.map_some, Option.getD_some, List.flatMap_cons, List.append_assoc]

/-- Each of the texts is counted. -/
theorem verdict_map_encode (h : ∀ text ∈ texts, settings.Enters text) :
    verdict session fresh settings (texts.map Text.encode) = .ok (tally session fresh texts) := by
  induction texts with
  | nil => rfl
  | cons text rest ih =>
    obtain ⟨htext, hrest⟩ := List.forall_mem_cons.1 h
    rw [List.map_cons, verdict_cons_of_goesOn (goesOn_encode htext), evaluated?_encode htext,
      ih hrest]
    exact congrArg Except.ok (tally_append [text] rest).symm

/-- What is not rejected is parsed. -/
theorem tally_eq_sub (texts : List Text) :
    tally session fresh texts =
      ⟨texts.length - texts.countP (!parses session fresh ·),
        texts.countP (!parses session fresh ·)⟩ := by
  have hlength := List.length_eq_countP_add_countP (parses session fresh) (l := texts)
  unfold tally
  simp only [Bool.not_eq_true, Bool.decide_eq_false] at hlength ⊢
  congr 1
  omega

/-- **A session that is entered the texts** writes about all of them and ends with its input. -/
theorem exists_performs_runSession_linesOf (hstart : grammar.start = .ok (session, fresh))
    (hends : ∀ line, ∃ outcome, (session.run fresh line 0).1 = .ok outcome)
    (hreach : grammar.Reaches session console.store) (hroom : console.sink.room = none)
    (h : ∀ text ∈ texts, settings.Enters text) :
    ∃ after, Performs (runSession session settings (linesOf texts)) console
      (.ok (tally session fresh texts)) (entries session fresh settings texts) after := by
  have hsession : ∃ after,
      Performs (runSession session settings (linesOf texts)) console _ _ after :=
    exists_performs_runSession hstart hends hreach hroom (linesOf texts)
  rwa [splitLines_linesOf fun text hmem => (h text hmem).unbroken, verdict_map_encode h,
    transcript_map_encode h] at hsession

end Lines

end Console

namespace Program

open Console

section Given

variable {grammar : Grammar RuleName Expression} {session : Session RuleName Expression}
  {fresh : Store RuleName Expression} {console : Console}

/-! ## §2. Expressions as arguments -/

/-- All expressions are evaluated, each as on a fresh parser, and those that are not parsed are
counted. -/
theorem exists_performs_evaluateAll (hstart : grammar.start = .ok (session, fresh))
    (hends : ∀ line, ∃ outcome, (session.run fresh line 0).1 = .ok outcome)
    (hreach : grammar.Reaches session console.store) (hroom : console.sink.room = none)
    (expressions : List Text) :
    ∃ after, Performs (evaluateAll session expressions) console
      (.ok (expressions.countP (!parses session fresh ·)))
      (expressions.flatMap (written session fresh)) after := by
  induction expressions generalizing console with
  | nil => exact ⟨console, .pure hroom 0⟩
  | cons expression rest ih =>
    obtain ⟨outcome, hrun⟩ := hends expression
    obtain ⟨middle, hfirst, hreach'⟩ := exists_performs_evaluate hstart hreach hroom hrun
    obtain ⟨after, hrest⟩ := ih hreach' hfirst.room
    -- A rejected expression is counted behind those after it.
    have hcount := hrest.bind_pure fun rejected =>
      if parses session fresh expression then rejected else rejected + 1
    have hfailed : (if parses session fresh expression then rest.countP (!parses session fresh ·)
        else rest.countP (!parses session fresh ·) + 1) =
          (expression :: rest).countP (!parses session fresh ·) := by
      rw [List.countP_cons]
      cases parses session fresh expression with
      | true => rfl
      | false => rfl
    rw [hfailed] at hcount
    unfold evaluateAll
    exact ⟨after, hfirst.bind hcount⟩

/-- The program writes what its expressions write, and names how many were rejected. -/
theorem completion_evaluateGiven {expressions : List Text} {failed : Nat} {octets : List UInt8}
    {after : Console}
    (h : Performs (evaluateAll session expressions) console (.ok failed) octets after) :
    let completion := Completion.ofTask ((evaluateGiven session expressions).run.run console)
    completion.sink = after.sink ∧ completion.error =
      if failed = 0 then none else some (.rejected failed expressions.length) := by
  have hall : (Task.ofAction (evaluateAll session expressions)).run.run console =
      (.ok failed, after) := by
    rw [Task.run_ofAction, h.run]
    rfl
  unfold evaluateGiven
  rw [Run.run_bind, hall]
  cases failed with
  | zero => exact ⟨rfl, rfl⟩
  | succ failed => exact ⟨rfl, rfl⟩

end Given

/-! ## §3. The program -/

section Modes

variable {world : World} {arguments : Arguments} {settings : Settings} {events : List Log.Event}
  {session : Session RuleName Expression} {fresh : Store RuleName Expression}
  {expressions : List Text}

/-- Every rule has a grammar that starts, and the parser has an outcome on every line. -/
theorem exists_start (rule : Language.EntryRule) :
    ∃ session fresh, (Language.ruleGrammar rule).start = .ok (session, fresh) ∧
      ∀ line, ∃ outcome, (session.run fresh line 0).1 = .ok outcome := by
  have hlanguage {root : Language.Part} {session : Session RuleName Expression}
      {fresh : Store RuleName Expression}
      (hstart : (Language.grammarOf root).start = .ok (session, fresh)) :
      ∃ session fresh, (Language.grammarOf root).start = .ok (session, fresh) ∧
        ∀ line, ∃ outcome, (session.run fresh line 0).1 = .ok outcome :=
    ⟨session, fresh, hstart, exists_outcome_of_start hstart⟩
  cases rule with
  | function => exact hlanguage rfl
  | expression => exact hlanguage rfl

/-- The program with expressions as its arguments, on an output without a limit. -/
def World.given (world : World) (arguments : Arguments) (expressions : List Text) : Completion :=
  { world with room := none }.run { arguments with expressions }

/-- The program without any, on an input and an output without a limit. -/
def World.entered (world : World) (arguments : Arguments) (input : List UInt8) : Completion :=
  { world with input, room := none }.run { arguments with expressions := [] }

/-- With settings the program has a console, on which nothing was parsed or written. -/
theorem World.exists_prepare (h : world.loadSettings arguments.config = (.ok settings, events))
    (hstart : (Language.ruleGrammar (settings.withRule arguments.rule).rule).start =
      .ok (session, fresh)) :
    ∃ events, ∀ input expressions,
      { world with input, room := none }.prepare { arguments with expressions } =
        .ok ⟨session, settings.withRule arguments.rule, { store := fresh, events }⟩ := by
  refine ⟨compiledEvent :: buildingEvent (settings.withRule arguments.rule).rule :: events, ?_⟩
  intro input expressions
  have hload : { world with input, room := none }.loadSettings arguments.config =
      (.ok settings, events) := h
  unfold World.prepare
  simp only [hload, hstart]
  rfl

section Ready

variable {grammar : Grammar RuleName Expression}
  (hprepare : ∀ input expressions,
    { world with input, room := none }.prepare { arguments with expressions } =
      .ok ⟨session, settings, { store := fresh, events }⟩)
  (hstart : grammar.start = .ok (session, fresh))
  (hends : ∀ line, ∃ outcome, (session.run fresh line 0).1 = .ok outcome)

include hprepare hstart hends

/-- Expressions that are given are evaluated to the last. -/
theorem World.given_of_prepare (hne : expressions ≠ []) :
    let failed := expressions.countP (!parses session fresh ·)
    let given := world.given arguments expressions
    given.sink.bytes = expressions.flatMap (written session fresh) ∧
      given.error = if failed = 0 then none else some (.rejected failed expressions.length) := by
  intro failed given
  let console : Console := { store := fresh, events }
  have hreach : grammar.Reaches session console.store := .start hstart
  obtain ⟨after, hperforms⟩ := exists_performs_evaluateAll hstart hends hreach rfl expressions
  -- There are expressions, so no session is run.
  have htask : Ready.task ⟨session, settings, console⟩ { arguments with expressions }
      world.input = evaluateGiven session expressions := by
    unfold Ready.task
    rw [List.isEmpty_eq_false_iff.2 hne]
    rfl
  have hrun : given = .ofTask ((evaluateGiven session expressions).run.run console) := by
    show World.run _ _ = _
    unfold World.run
    rw [hprepare world.input expressions, ← htask]
  obtain ⟨hsink, herror⟩ := completion_evaluateGiven hperforms
  rw [hrun]
  exact ⟨(congrArg Sink.bytes hsink).trans hperforms.bytes, herror⟩

/-- Expressions that are entered are evaluated to the last, and the session ends with the input. -/
theorem World.entered_of_prepare (hlines : ∀ text ∈ expressions, settings.Enters text) :
    let entered := world.entered arguments (linesOf expressions)
    entered.sink.bytes = entries session fresh settings expressions ∧ entered.error = none := by
  intro entered
  let console : Console := { store := fresh, events }
  have hreach : grammar.Reaches session console.store := .start hstart
  obtain ⟨after, hperforms⟩ := exists_performs_runSession_linesOf hstart hends hreach rfl hlines
  have hrun : entered = .ofTask (.ok (), after) := by
    show World.run _ _ = _
    unfold World.run
    rw [hprepare (linesOf expressions) []]
    -- There are none among the arguments, so the task is a session.
    show Completion.ofTask ((Task.ofAction _ >>= fun _ => pure ()).run.run console) = _
    rw [Run.run_bind, Task.run_ofAction, hperforms.run]
    rfl
  rw [hrun]
  exact ⟨hperforms.bytes, rfl⟩

end Ready

/-- Without settings nothing is written, whatever the program should have done. -/
theorem World.run_of_loadSettings_error {error : ProgramError}
    (h : world.loadSettings arguments.config = (.error error, events)) (input : List UInt8)
    (expressions : List Text) :
    { world with input }.run { arguments with expressions } =
      ⟨some error, .limited world.room, events.reverse⟩ := by
  have hload : { world with input }.loadSettings arguments.config = (.error error, events) := h
  unfold World.run World.prepare
  simp only [hload]

/-- **Expressions as arguments and as lines.** Once the settings are loaded there is a parser, and
expressions that are given are all evaluated in their order: what is written about each of them is
what is written about it where nothing was evaluated before. The program ends without an error if
all are parsed, and otherwise it says how many of how many were not. If the same expressions can be
entered as lines, a session writes the same about each of them, with the prompt in front, and at its
end the prompt and a line feed; and it counts as many as rejected, and the others as parsed. If the
settings cannot be loaded, nothing is written, with or without expressions. -/
theorem World.modes_agree (world : World) (arguments : Arguments) :
    (∀ loaded events, world.loadSettings arguments.config = (.ok loaded, events) →
      let settings := loaded.withRule arguments.rule
      ∃ session fresh, (Language.ruleGrammar settings.rule).start = .ok (session, fresh) ∧
        ∀ expressions, expressions ≠ [] →
          let failed := expressions.countP (!parses session fresh ·)
          let given := world.given arguments expressions
          let entered := world.entered arguments (linesOf expressions)
          given.sink.bytes = expressions.flatMap (written session fresh) ∧
          given.error =
            (if failed = 0 then none else some (.rejected failed expressions.length)) ∧
          ((∀ text ∈ expressions, settings.Enters text) →
            entered.sink.bytes = entries session fresh settings expressions ∧
            entered.error = none ∧
            ∃ after, Performs (runSession session settings (linesOf expressions))
              { store := fresh } (.ok ⟨expressions.length - failed, failed⟩) entered.sink.bytes
              after)) ∧
    ∀ error events, world.loadSettings arguments.config = (.error error, events) →
      ∀ input expressions,
        let completion := { world with input }.run { arguments with expressions }
        completion.sink.bytes = [] ∧ completion.error = some error := by
  constructor
  · intro loaded events h settings
    -- The parser is the same in both modes, and it is what a run starts with.
    obtain ⟨session, fresh, hstart, hends⟩ := exists_start settings.rule
    obtain ⟨events', hprepare⟩ := exists_prepare h hstart
    refine ⟨session, fresh, hstart, ?_⟩
    intro expressions hne failed given entered
    obtain ⟨hgiven, herror⟩ := World.given_of_prepare hprepare hstart hends hne
    refine ⟨hgiven, herror, fun hlines => ?_⟩
    obtain ⟨hentered, hnone⟩ := World.entered_of_prepare hprepare hstart hends hlines
    have hreach : (Language.ruleGrammar settings.rule).Reaches session
        ({ store := fresh } : Console).store := .start hstart
    have hsession := exists_performs_runSession_linesOf hstart hends hreach rfl hlines
    rw [tally_eq_sub, ← hentered] at hsession
    exact ⟨hentered, hnone, hsession⟩
  · intro error events h input expressions completion
    have hrun : completion = ⟨some error, .limited world.room, events.reverse⟩ :=
      World.run_of_loadSettings_error h input expressions
    rw [hrun]
    exact ⟨rfl, rfl⟩

/-- An expression behind one that is rejected, in both modes, and a settings file that is not
there. -/
theorem World.modes_agree_behind_rejection :
    ∃ session fresh after, Language.expressionGrammar.start = .ok (session, fresh) ∧
      (World.given { find? := fun _ => none } { rule := some .expression }
        [['?'], ['4', '2']]).error = some (.rejected 1 2) ∧
      Performs (runSession session { rule := .expression } (Text.encode "?\n42\n".toList))
        { store := fresh } (.ok ⟨1, 1⟩) (entries session fresh {} [['?'], ['4', '2']]) after ∧
      (World.run { find? := fun _ => none }
        { config := some "away", expressions := [['?']] }).error =
          some (.missingSettings "away") := by
  -- Only the count is computed; what is written is not looked at.
  have hcounts : ∃ session fresh, Language.expressionGrammar.start = .ok (session, fresh) ∧
      [['?'], ['4', '2']].countP (!parses session fresh ·) = 1 := ⟨_, _, rfl, by decide +kernel⟩
  obtain ⟨session, fresh, hstart, hcount⟩ := hcounts
  obtain ⟨hloaded, _⟩ := World.modes_agree { find? := fun _ => none } { rule := some .expression }
  obtain ⟨session', fresh', hstart', hagree⟩ := hloaded _ _ rfl
  obtain ⟨rfl, rfl⟩ : session' = session ∧ fresh' = fresh := by
    have hsame := hstart'.symm.trans hstart
    simpa using hsame
  obtain ⟨_, herror, hentered⟩ := hagree [['?'], ['4', '2']] (List.cons_ne_nil _ _)
  rw [hcount] at herror hentered
  have hlines : ∀ text ∈ [['?'], ['4', '2']], Settings.Enters { rule := .expression } text := by
    intro text hmem
    simp only [List.mem_cons, List.not_mem_nil, or_false] at hmem
    rcases hmem with rfl | rfl
    · exact ⟨by decide, by decide, by decide, by decide⟩
    · exact ⟨by decide, by decide, by decide, by decide⟩
  obtain ⟨hbytes, _, after, hsession⟩ := hentered hlines
  rw [hbytes] at hsession
  obtain ⟨_, hfault⟩ := World.modes_agree { find? := fun _ => none } { config := some "away" }
  obtain ⟨_, hmissing⟩ := hfault _ _ rfl [] [['?']]
  exact ⟨_, _, after, hstart, herror, hsession, hmissing⟩

end Modes

end Program

end Backtrack
