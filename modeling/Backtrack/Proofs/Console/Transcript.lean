import Backtrack.Proofs.Console.ExitCommand
import Backtrack.Proofs.Expression.Termination
import Backtrack.Proofs.Session.Located
import Backtrack.Proofs.Text.Octets

/-! # What a session writes

    A session writes its prompt once for each line and once more at its end,
    and behind the prompt of a line what evaluating the line alone would
    write. Its parser remembers what it has built from line to line, and the
    output does not show it.

    * `map_lineOf?_inputLines`: lines are what stands between line feeds.
    * `Console.exists_performs_evaluate`: one line, whatever was parsed before.
    * `Console.exists_performs_readLines`: the loop.
    * `Console.runSession_transcript`: sessions. -/

namespace Backtrack

open Backtrack.Language (RuleName)

/-! ## §1. Lines -/

/-- The lines of an input, which stand between its line feeds. What stands behind the last line feed
is a line only if it is not empty. -/
def splitLines (input : List UInt8) : List (List UInt8) :=
  let pieces := input.splitOn 10
  if pieces.getLast? = some [] then pieces.dropLast else pieces

/-- The text of a line without the blanks around it, if it is text. -/
def lineOf? (octets : List UInt8) : Option Text :=
  (Text.decode? octets).map Text.trim

/-- A carriage return at the end of a line is a blank like others. -/
theorem lineOf?_append_return (octets : List UInt8) :
    lineOf? (octets ++ [13]) = lineOf? octets := by
  have hdecode : Text.decode? (octets ++ [13]) = (Text.decode? octets).map (· ++ ['\r']) :=
    @Text.decode?_append_ascii octets '\r' (by decide)
  have htrim : Text.trim ∘ (· ++ ['\r']) = Text.trim :=
    funext (Text.trim_append_blank (by decide))
  unfold lineOf?
  rw [hdecode, Option.map_map, htrim]

/-- Nothing is dropped, or a carriage return at the end. -/
theorem dropReturn_eq_or (octets : List UInt8) :
    dropReturn octets = octets ∨ octets = dropReturn octets ++ [13] := by
  induction octets using dropReturn.induct with
  | case1 => exact .inl rfl
  | case2 => exact .inr rfl
  | case3 octet hne =>
    left
    simp only [dropReturn, if_neg hne]
  | case4 octet rest hrest ih =>
    rw [dropReturn]
    · rcases ih with ih | ih
      · left
        rw [ih]
      · right
        rw [List.cons_append, ← ih]
    · exact hrest

theorem lineOf?_dropReturn (octets : List UInt8) :
    lineOf? (dropReturn octets) = lineOf? octets := by
  rcases dropReturn_eq_or octets with hsame | hreturn
  · rw [hsame]
  · rw [← lineOf?_append_return, ← hreturn]

/-- What stands in front of a line feed and what stands behind it are split on their own. -/
theorem splitLines_append_feed (front rest : List UInt8) :
    splitLines (front ++ 10 :: rest) = front.splitOn 10 ++ splitLines rest := by
  unfold splitLines
  rw [List.splitOn_append_cons_self]
  -- The last piece is one of those behind the line feed.
  have hne : rest.splitOn 10 ≠ [] := List.splitOnP_ne_nil _ _
  simp only [List.getLast?_append_of_ne_nil _ hne, List.dropLast_append_of_ne_nil hne]
  split
  · rfl
  · rfl

/-- The lines in front of a line feed are lines of the whole. -/
theorem exists_splitLines_append_feed (front rest : List UInt8) :
    ∃ behind, splitLines (front ++ 10 :: rest) = splitLines front ++ behind := by
  rw [splitLines_append_feed, splitLines.eq_def front]
  dsimp only
  split
  · next hlast =>
    obtain ⟨pieces, hpieces⟩ := List.getLast?_eq_some_iff.1 hlast
    rw [hpieces, List.dropLast_concat, List.append_assoc]
    exact ⟨_, rfl⟩
  · exact ⟨_, rfl⟩

theorem splitLines_of_not_mem {line : List UInt8} (h : 10 ∉ line) :
    splitLines line = if line.isEmpty then [] else [line] := by
  unfold splitLines
  rw [List.splitOn_eq_singleton h]
  cases line with
  | nil => rfl
  | cons octet rest => rfl

/-- A console reads the lines of its input. -/
theorem map_lineOf?_linesFrom (current input : List UInt8) (h : 10 ∉ current) :
    (linesFrom current input).map lineOf? =
      (splitLines (current.reverse ++ input)).map lineOf? := by
  -- What stands behind the last line feed so far is `current`, backwards.
  have hreverse : 10 ∉ current.reverse := fun hmem => h (List.mem_reverse.1 hmem)
  induction input generalizing current with
  | nil =>
    rw [List.append_nil, splitLines_of_not_mem hreverse, List.isEmpty_reverse]
    rfl
  | cons octet rest ih =>
    unfold linesFrom
    by_cases hfeed : octet = 10
    · rw [if_pos hfeed, hfeed, splitLines_append_feed, List.splitOn_eq_singleton hreverse,
        List.singleton_append, List.map_cons, List.map_cons, lineOf?_dropReturn,
        ih [] List.not_mem_nil List.not_mem_nil]
      rfl
    · have hnot : 10 ∉ octet :: current := by
        intro hmem
        rcases List.mem_cons.1 hmem with heq | hmem
        · exact hfeed heq.symm
        · exact h hmem
      rw [if_neg hfeed, ih _ hnot fun hmem => hnot (List.mem_reverse.1 hmem), List.reverse_cons,
        List.append_assoc, List.singleton_append]

theorem map_lineOf?_inputLines (input : List UInt8) :
    (inputLines input).map lineOf? = (splitLines input).map lineOf? :=
  map_lineOf?_linesFrom [] input List.not_mem_nil

/-! ## §2. Transcripts -/

/-- The summary of one part of a session behind that of another. -/
def Summary.add (summary other : Summary) : Summary :=
  ⟨summary.parsed + other.parsed, summary.rejected + other.rejected⟩

theorem Summary.empty_add (summary : Summary) : Summary.add {} summary = summary := by
  unfold Summary.add
  rw [Nat.zero_add, Nat.zero_add]

theorem Summary.add_assoc (first second third : Summary) :
    (first.add second).add third = first.add (second.add third) := by
  unfold Summary.add
  rw [Nat.add_assoc, Nat.add_assoc]

namespace Console

section Transcripts

variable (session : Session RuleName Expression) (fresh : Store RuleName Expression)
  (settings : Settings) (lines : List (List UInt8))

/-- Does the session go on behind the line? It ends with the exit command, and with octets that are
no text. -/
def goesOn (octets : List UInt8) : Bool :=
  match lineOf? octets with
  | some line => !settings.isExit line
  | none => false

/-- The lines that the session goes on behind, one after the other. -/
def heard : List (List UInt8) :=
  lines.takeWhile (goesOn settings)

/-- The line that the session ends with, unless the input ends first. -/
def last? : Option (List UInt8) :=
  (lines.dropWhile (goesOn settings)).head?

/-- What of a line is evaluated: nothing of a blank line. -/
def evaluated? (octets : List UInt8) : Option Text :=
  (lineOf? octets).filter fun line => !line.isEmpty

/-- What evaluating a line writes where nothing was evaluated before. -/
def written (line : Text) : List UInt8 :=
  ((evaluate session line).run.run { store := fresh }).2.sink.bytes

/-- Is a line parsed where nothing was evaluated before? -/
def parses (line : Text) : Bool :=
  ((evaluate session line).run.run { store := fresh }).1.toOption == some true

/-- What a session writes: for each line behind which it goes on the prompt and what evaluating the
line writes, then the prompt, and a line feed if the input has ended. -/
def transcript : List UInt8 :=
  (heard settings lines).flatMap (fun octets => Text.encode settings.prompt ++
      ((evaluated? octets).map (written session fresh)).getD []) ++
    Text.encode settings.prompt ++ if (last? settings lines).isNone then [10] else []

/-- How many of the texts are parsed, and how many are not. -/
def tally (texts : List Text) : Summary where
  parsed := texts.countP (parses session fresh)
  rejected := texts.countP (!parses session fresh ·)

/-- What a session comes to: how many of the lines evaluated were parsed and how many were not, or a
fault if the session ends with octets that are no text. -/
def verdict : Except Fault Summary :=
  if (last? settings lines).any (fun octets => (lineOf? octets).isNone) then .error .notText
  else .ok (tally session fresh ((heard settings lines).filterMap evaluated?))

end Transcripts

/-! ## §3. Actions on an output without a limit -/

/-- On an output without a limit the action gives the result and writes the octets. -/
structure Performs {β : Type} (action : Action β) (before : Console) (result : Except Fault β)
    (octets : List UInt8) (after : Console) : Prop where
  run : action.run.run before = (result, after)
  room : after.sink.room = none
  bytes : after.sink.bytes = before.sink.bytes ++ octets

section Actions

variable {β γ : Type} {action : Action β} {next : β → Action γ} {before middle after : Console}
  {value : β} {fault : Fault} {result : Except Fault γ} {octets octets' : List UInt8}

theorem Performs.pure (hroom : before.sink.room = none) (value : β) :
    Performs (Pure.pure value : Action β) before (.ok value) [] before :=
  ⟨rfl, hroom, (List.append_nil _).symm⟩

theorem Performs.throw (hroom : before.sink.room = none) (fault : Fault) :
    Performs (MonadExcept.throw fault : Action β) before (.error fault) [] before :=
  ⟨rfl, hroom, (List.append_nil _).symm⟩

theorem Performs.bind (h : Performs action before (.ok value) octets middle)
    (hnext : Performs (next value) middle result octets' after) :
    Performs (action >>= next) before result (octets ++ octets') after where
  run := by
    rw [Run.run_bind, h.run]
    exact hnext.run
  room := hnext.room
  bytes := by rw [hnext.bytes, h.bytes, List.append_assoc]

theorem Performs.bind_error (h : Performs action before (.error fault) octets after) :
    Performs (action >>= next) before (.error fault) octets after where
  run := by rw [Run.run_bind, h.run]
  room := h.room
  bytes := h.bytes

theorem Performs.bind_pure (h : Performs action before (.ok value) octets after) (f : β → γ) :
    Performs (action >>= fun value => Pure.pure (f value)) before (.ok (f value)) octets after where
  run := by
    rw [Run.run_bind, h.run]
    rfl
  room := h.room
  bytes := h.bytes

theorem performs_write (hroom : before.sink.room = none) (text : String) :
    Performs (write text) before (.ok ()) (Text.encode text.toList)
      { before with sink := ⟨Text.encode text.toList :: before.sink.parts, none⟩ } where
  run := by
    obtain ⟨store, ⟨parts, room⟩, events⟩ := before
    obtain rfl : room = none := hroom
    rfl
  room := rfl
  bytes := by
    simp only [Sink.bytes, List.reverse_cons, List.flatten_append, List.flatten_singleton]

/-- A prompt is text that is written. -/
theorem exists_performs_prompt (hroom : before.sink.room = none) (settings : Settings) :
    ∃ after, Performs (write settings.prompt.toString) before (.ok ())
        (Text.encode settings.prompt) after ∧ after.store = before.store := by
  have hwrite := performs_write hroom settings.prompt.toString
  rw [Text.toString, String.toList_ofList] at hwrite
  exact ⟨_, hwrite, rfl⟩

theorem performs_note (hroom : before.sink.room = none) (event : Log.Event) :
    Performs (note event) before (.ok ()) [] { before with events := event :: before.events } :=
  ⟨rfl, hroom, (List.append_nil _).symm⟩

end Actions

/-! ## §4. Evaluation -/

section Evaluation

variable {grammar : Grammar RuleName Expression} {session : Session RuleName Expression}
  {fresh : Store RuleName Expression} {console : Console} {line : Text}
  {outcome : Outcome (Value Expression)}

/-- What is done about an outcome. -/
def respond (line : Text) : Outcome (Value Expression) → Action Bool
  | .success success => do
    write "Parsed As:\n"
    write (displayValue success.value ++ "\n")
    pure true
  | .failure failure => do
    note (rejectedEvent failure)
    write ((failure.report line).render .drawn)
    pure false

theorem evaluate_eq_bind (session : Session RuleName Expression) (line : Text) :
    evaluate session line = parse session line >>= respond line := by
  unfold evaluate
  congr 1

/-- What is written about an outcome depends on nothing else. -/
theorem exists_performs_respond (line : Text) (outcome : Outcome (Value Expression)) :
    ∃ octets, ∀ before : Console, before.sink.room = none → ∃ after,
      Performs (respond line outcome) before (.ok outcome.isSuccess) octets after ∧
        after.store = before.store := by
  cases outcome with
  | success success =>
    let display := displayValue success.value ++ "\n"
    refine ⟨Text.encode "Parsed As:\n".toList ++ Text.encode display.toList,
      fun before hroom => ?_⟩
    have hfirst := performs_write hroom "Parsed As:\n"
    have hsecond := (performs_write hfirst.room display).bind_pure fun _ => true
    exact ⟨_, hfirst.bind hsecond, rfl⟩
  | failure failure =>
    let report := (failure.report line).render .drawn
    refine ⟨[] ++ Text.encode report.toList, fun before hroom => ?_⟩
    have hfirst := performs_note hroom (rejectedEvent failure)
    have hsecond := (performs_write hfirst.room report).bind_pure fun _ => false
    exact ⟨_, hfirst.bind hsecond, rfl⟩

/-- Parsing a line changes the store and the log, and nothing is written. -/
theorem performs_parse (hroom : console.sink.room = none)
    (hrun : (session.run console.store line 0).1 = .ok outcome) :
    ∃ after, Performs (parse session line) console (.ok outcome) [] after ∧
      after.store = (session.run console.store line 0).2.1 := by
  rcases hresult : session.run console.store line 0 with ⟨result, store, resolved⟩
  rw [hresult] at hrun
  cases hrun
  refine ⟨{ console with store, events := resolved.map (fun _ => resolvedEvent) ++ console.events },
    ⟨?_, hroom, (List.append_nil _).symm⟩, rfl⟩
  have hget : (get : Action Console).run.run console = (.ok console, console) := rfl
  unfold parse
  rw [Run.run_bind, hget]
  simp only [hresult]
  rfl

/-- **Evaluating a line does what it does where nothing was evaluated before**, on every store that
runs of the grammar leave behind. -/
theorem exists_performs_evaluate (hstart : grammar.start = .ok (session, fresh))
    (hreach : grammar.Reaches session console.store) (hroom : console.sink.room = none)
    (hrun : (session.run fresh line 0).1 = .ok outcome) :
    ∃ after, Performs (evaluate session line) console (.ok (parses session fresh line))
        (written session fresh line) after ∧
      grammar.Reaches session after.store := by
  obtain ⟨octets, hrespond⟩ := exists_performs_respond line outcome
  have hevaluate (console : Console) (hreach : grammar.Reaches session console.store)
      (hroom : console.sink.room = none) :
      ∃ after, Performs (evaluate session line) console (.ok outcome.isSuccess) octets after ∧
        grammar.Reaches session after.store := by
    have hrun' : (session.run console.store line 0).1 = .ok outcome := by
      have hstarts : grammar.Reaches session fresh := .start hstart
      rw [hreach.sound.run_eq_evaluate, ← hstarts.sound.run_eq_evaluate, hrun]
    obtain ⟨middle, hparse, hstore⟩ := performs_parse hroom hrun'
    obtain ⟨after, hafter, hkept⟩ := hrespond middle hparse.room
    refine ⟨after, ?_, ?_⟩
    · rw [evaluate_eq_bind]
      exact hparse.bind hafter
    · rw [hkept, hstore]
      exact hreach.run line 0
  -- Among these stores is the one of the fresh parser.
  obtain ⟨after, hfresh, _⟩ := hevaluate { store := fresh } (.start hstart) rfl
  have hparses : parses session fresh line = outcome.isSuccess := by
    unfold parses
    rw [hfresh.run]
    cases outcome.isSuccess with
    | true => rfl
    | false => rfl
  have hwritten : written session fresh line = octets := by
    unfold written
    rw [hfresh.run, hfresh.bytes]
    rfl
  rw [hparses, hwritten]
  exact hevaluate console hreach hroom

end Evaluation

/-! ## §5. The loop -/

section Loop

variable {grammar : Grammar RuleName Expression} {session : Session RuleName Expression}
  {fresh : Store RuleName Expression} {settings : Settings} {console : Console}
  {summary : Summary} {octets : List UInt8} {rest lines lines' : List (List UInt8)}

/-- An answer depends on what a line is without the blanks around it. -/
theorem answer_eq_match (session : Session RuleName Expression) (settings : Settings)
    (summary : Summary) (octets : List UInt8) :
    answer session settings summary octets =
      match lineOf? octets with
      | none => throw .notText
      | some line =>
        if settings.isExit line then pure none
        else if line.isEmpty then pure (some summary)
        else evaluate session line >>= fun parsed => pure (some (summary.count parsed)) := by
  unfold answer lineOf?
  cases Text.decode? octets with
  | none => rfl
  | some text => rfl

/-- Lines that are the same without the blanks around them are read in the same way. -/
theorem readLines_congr (h : lines.map lineOf? = lines'.map lineOf?) :
    readLines session settings summary lines = readLines session settings summary lines' := by
  induction lines generalizing lines' summary with
  | nil =>
    rw [List.map_eq_nil_iff.1 h.symm]
  | cons octets rest ih =>
    cases lines' with
    | nil => cases h
    | cons octets' rest' =>
      obtain ⟨hline, hrest⟩ := List.cons.inj h
      unfold readLines
      simp only [answer_eq_match, hline, ih hrest]

theorem heard_cons_of_goesOn (h : goesOn settings octets = true) :
    heard settings (octets :: rest) = octets :: heard settings rest :=
  List.takeWhile_cons_of_pos h

theorem last?_cons_of_goesOn (h : goesOn settings octets = true) :
    last? settings (octets :: rest) = last? settings rest := by
  unfold last?
  rw [List.dropWhile_cons_of_pos h]

theorem heard_cons_of_not_goesOn (h : goesOn settings octets = false) :
    heard settings (octets :: rest) = [] :=
  List.takeWhile_cons_of_neg (by simp [h])

theorem last?_cons_of_not_goesOn (h : goesOn settings octets = false) :
    last? settings (octets :: rest) = some octets := by
  unfold last?
  rw [List.dropWhile_cons_of_neg (by simp [h])]
  rfl

/-- What is written behind the prompt of a line. -/
theorem transcript_cons_of_goesOn (h : goesOn settings octets = true) :
    transcript session fresh settings (octets :: rest) = Text.encode settings.prompt ++
      (((evaluated? octets).map (written session fresh)).getD [] ++
        transcript session fresh settings rest) := by
  unfold transcript
  rw [heard_cons_of_goesOn h, last?_cons_of_goesOn h, List.flatMap_cons]
  simp only [List.append_assoc]

theorem transcript_cons_of_not_goesOn (h : goesOn settings octets = false) :
    transcript session fresh settings (octets :: rest) = Text.encode settings.prompt := by
  unfold transcript
  rw [heard_cons_of_not_goesOn h, last?_cons_of_not_goesOn h]
  exact List.append_nil _

theorem tally_append (texts texts' : List Text) :
    tally session fresh (texts ++ texts') =
      (tally session fresh texts).add (tally session fresh texts') := by
  unfold tally Summary.add
  rw [List.countP_append, List.countP_append]

/-- A line is counted if it is evaluated. -/
theorem verdict_cons_of_goesOn (h : goesOn settings octets = true) :
    verdict session fresh settings (octets :: rest) =
      (verdict session fresh settings rest).map
        (tally session fresh (evaluated? octets).toList).add := by
  have hevaluated : (heard settings (octets :: rest)).filterMap evaluated? =
      (evaluated? octets).toList ++ (heard settings rest).filterMap evaluated? := by
    rw [heard_cons_of_goesOn h, List.filterMap_cons]
    cases evaluated? octets with
    | none => rfl
    | some line => rfl
  unfold verdict
  rw [last?_cons_of_goesOn h, hevaluated, tally_append]
  split
  · rfl
  · rfl

theorem verdict_cons_of_not_goesOn (h : goesOn settings octets = false) :
    verdict session fresh settings (octets :: rest) =
      if (lineOf? octets).isNone then .error .notText else .ok {} := by
  unfold verdict
  rw [heard_cons_of_not_goesOn h, last?_cons_of_not_goesOn h]
  rfl

theorem count_eq_add (summary : Summary) (line : Text) :
    summary.count (parses session fresh line) = summary.add (tally session fresh [line]) := by
  cases hparses : parses session fresh line with
  | true => simp [Summary.count, Summary.add, tally, hparses]
  | false => simp [Summary.count, Summary.add, tally, hparses]

/-- A line behind which the session goes on is answered as on a fresh parser. -/
theorem exists_performs_answer (hstart : grammar.start = .ok (session, fresh))
    (hends : ∀ line, ∃ outcome, (session.run fresh line 0).1 = .ok outcome)
    (hreach : grammar.Reaches session console.store) (hroom : console.sink.room = none)
    (h : goesOn settings octets = true) (summary : Summary) :
    ∃ after, Performs (answer session settings summary octets) console
        (.ok (some (summary.add (tally session fresh (evaluated? octets).toList))))
        (((evaluated? octets).map (written session fresh)).getD []) after ∧
      grammar.Reaches session after.store := by
  rw [answer_eq_match]
  unfold goesOn at h
  unfold evaluated?
  cases hline : lineOf? octets with
  | none =>
    rw [hline] at h
    cases h
  | some line =>
    rw [hline] at h
    have hexit : settings.isExit line = false := by simpa using h
    simp only [hexit, Bool.false_eq_true, if_false]
    cases hblank : line.isEmpty with
    | true =>
      simp only [Option.filter, hblank, if_true]
      exact ⟨console, .pure hroom (some summary), hreach⟩
    | false =>
      simp only [Option.filter, hblank, Bool.false_eq_true, if_false]
      obtain ⟨outcome, hrun⟩ := hends line
      obtain ⟨after, hafter, hreach'⟩ := exists_performs_evaluate hstart hreach hroom hrun
      have hanswer := hafter.bind_pure fun parsed => some (summary.count parsed)
      rw [count_eq_add] at hanswer
      exact ⟨after, hanswer, hreach'⟩

/-- What a console does with the octets that a session ends with: nothing, or it is a fault. -/
theorem performs_answer_of_not_goesOn (hroom : console.sink.room = none)
    (h : goesOn settings octets = false) :
    Performs (answer session settings summary octets) console
      (if (lineOf? octets).isNone then .error .notText else .ok none) [] console := by
  rw [answer_eq_match]
  unfold goesOn at h
  cases hline : lineOf? octets with
  | none => exact .throw hroom .notText
  | some line =>
    rw [hline] at h
    have hexit : settings.isExit line = true := by simpa using h
    simp only [hexit, if_true]
    exact .pure hroom none

/-- **The loop.** Its result and what it writes are those of the lines, evaluated on a fresh
parser. -/
theorem exists_performs_readLines (hstart : grammar.start = .ok (session, fresh))
    (hends : ∀ line, ∃ outcome, (session.run fresh line 0).1 = .ok outcome)
    (hreach : grammar.Reaches session console.store) (hroom : console.sink.room = none) :
    ∃ after, Performs (readLines session settings summary lines) console
        ((verdict session fresh settings lines).map summary.add)
        (transcript session fresh settings lines) after ∧
      grammar.Reaches session after.store := by
  -- Along the lines, from every store that runs leave behind and with whatever was counted before.
  induction lines generalizing console summary with
  | nil =>
    obtain ⟨prompted, hprompt, hstore⟩ := exists_performs_prompt hroom settings
    have hfeed := (performs_write hprompt.room "\n").bind_pure fun _ => summary
    exact ⟨_, hprompt.bind hfeed, hstore ▸ hreach⟩
  | cons octets rest ih =>
    obtain ⟨prompted, hprompt, hstore⟩ := exists_performs_prompt hroom settings
    rw [← hstore] at hreach
    unfold readLines
    cases hgoesOn : goesOn settings octets with
    | false =>
      -- Nothing is written behind the prompt, and the lines that follow are not looked at.
      have hanswer : Performs (answer session settings summary octets) prompted _ [] prompted :=
        performs_answer_of_not_goesOn hprompt.room hgoesOn
      rw [verdict_cons_of_not_goesOn hgoesOn, transcript_cons_of_not_goesOn hgoesOn,
        ← List.append_nil (Text.encode settings.prompt)]
      refine ⟨prompted, hprompt.bind ?_, hreach⟩
      cases hline : (lineOf? octets).isNone with
      | true =>
        rw [hline] at hanswer
        exact hanswer.bind_error
      | false =>
        rw [hline] at hanswer
        exact hanswer.bind (.pure hanswer.room summary)
    | true =>
      obtain ⟨middle, hanswer, hreach'⟩ :=
        exists_performs_answer hstart hends hreach hprompt.room hgoesOn summary
      obtain ⟨after, hrest, hreach''⟩ := ih hreach' hanswer.room
      have hverdict : (verdict session fresh settings (octets :: rest)).map summary.add =
          (verdict session fresh settings rest).map
            (summary.add (tally session fresh (evaluated? octets).toList)).add := by
        rw [verdict_cons_of_goesOn hgoesOn]
        cases verdict session fresh settings rest with
        | error fault => rfl
        | ok counted => exact congrArg Except.ok (Summary.add_assoc _ _ _).symm
      rw [hverdict, transcript_cons_of_goesOn hgoesOn]
      exact ⟨after, hprompt.bind (hanswer.bind hrest), hreach''⟩

/-- What is done behind the octets that a session ends with depends on nothing but that. -/
theorem answer_bind_congr (h : goesOn settings octets = false)
    {next next' : Option Summary → Action Summary} (hnext : next none = next' none) :
    answer session settings summary octets >>= next =
      answer session settings summary octets >>= next' := by
  rw [answer_eq_match]
  unfold goesOn at h
  cases hline : lineOf? octets with
  | none => rfl
  | some line =>
    rw [hline] at h
    have hexit : settings.isExit line = true := by simpa using h
    simp only [hexit, if_true, pure_bind, hnext]

/-- Lines behind one that ends the session are not read. -/
theorem readLines_append_of_ends (h : lines.all (goesOn settings) = false)
    (behind : List (List UInt8)) :
    readLines session settings summary (lines ++ behind) =
      readLines session settings summary lines := by
  induction lines generalizing summary with
  | nil => cases h
  | cons octets rest ih =>
    -- Both write the prompt and answer the line; they part only behind it.
    rw [List.cons_append]
    unfold readLines
    refine bind_congr fun _ => ?_
    cases hgoesOn : goesOn settings octets with
    | false => exact answer_bind_congr hgoesOn rfl
    | true =>
      rw [List.all_cons, hgoesOn, Bool.true_and] at h
      refine bind_congr fun answered => ?_
      cases answered with
      | none => rfl
      | some summary => exact ih h

end Loop

/-! ## §6. Sessions -/

section Sessions

variable {grammar : Grammar RuleName Expression} {session : Session RuleName Expression}
  {fresh : Store RuleName Expression} {settings : Settings} {console : Console}

theorem exists_performs_runSession (hstart : grammar.start = .ok (session, fresh))
    (hends : ∀ line, ∃ outcome, (session.run fresh line 0).1 = .ok outcome)
    (hreach : grammar.Reaches session console.store) (hroom : console.sink.room = none)
    (input : List UInt8) :
    ∃ after, Performs (runSession session settings input) console
      (verdict session fresh settings (splitLines input))
      (transcript session fresh settings (splitLines input)) after := by
  have hlines : ∃ after, Performs (readLines session settings {} (splitLines input)) console _ _
      after ∧ grammar.Reaches session after.store :=
    exists_performs_readLines hstart hends hreach hroom
  rw [← readLines_congr (map_lineOf?_inputLines input)] at hlines
  obtain ⟨after, hlines, _⟩ := hlines
  cases hverdict : verdict session fresh settings (splitLines input) with
  | error fault =>
    rw [hverdict] at hlines
    exact ⟨after, hlines.bind_error⟩
  | ok summary =>
    rw [hverdict, Except.map, Summary.empty_add] at hlines
    have hnote := (performs_note hlines.room (endedEvent summary)).bind_pure fun _ => summary
    rw [← List.append_nil (transcript _ _ _ _)]
    exact ⟨_, hlines.bind hnote⟩

/-- Sessions come to what their lines come to on a fresh parser and write their transcript, whatever
was parsed before. -/
def Transcribes (grammar : Grammar RuleName Expression) (session : Session RuleName Expression)
    (fresh : Store RuleName Expression) : Prop :=
  ∀ (settings : Settings) (input : List UInt8) (console : Console),
    grammar.Reaches session console.store → console.sink.room = none →
    ∃ after, Performs (runSession session settings input) console
      (verdict session fresh settings (splitLines input))
      (transcript session fresh settings (splitLines input)) after

/-- A fresh parser made of the rules of the language has an outcome on every line. -/
theorem exists_outcome_of_start {root : Language.Part}
    (hstart : (Language.grammarOf root).start = .ok (session, fresh)) (line : Text) :
    ∃ outcome, (session.run fresh line 0).1 = .ok outcome := by
  have hreach : (Language.grammarOf root).Reaches session fresh := .start hstart
  obtain ⟨outcome, hrun, _⟩ := hreach.exists_outcome (Language.complete_of_reaches hreach)
    (Language.acyclic_of_reaches hreach) line 0
  exact ⟨outcome, hrun⟩

/-- **What a session writes.** With any settings and on any input, a session writes for each line
behind which it goes on the prompt and what evaluating the line on a fresh parser writes, then the
prompt, and a line feed if the input has ended. It comes to how many lines were parsed and how many
were not, or to a fault if it ends with octets that are no text. So it is for every parser that has
an outcome on every line, among them all that are made of the rules of the language. What stands
behind the line that a session ends with is of no consequence. -/
theorem runSession_transcript :
    (∀ grammar session fresh, grammar.start = .ok (session, fresh) →
      (∀ line, ∃ outcome, (session.run fresh line 0).1 = .ok outcome) →
      Transcribes grammar session fresh) ∧
    (∀ root session fresh, (Language.grammarOf root).start = .ok (session, fresh) →
      Transcribes (Language.grammarOf root) session fresh) ∧
    (∀ rule, ∃ session fresh, (Language.ruleGrammar rule).start = .ok (session, fresh) ∧
      Transcribes (Language.ruleGrammar rule) session fresh) ∧
    ∀ session settings front, (splitLines front).all (goesOn settings) = false →
      ∀ tail, runSession session settings (front ++ 10 :: tail) =
        runSession session settings front := by
  have hgeneral : ∀ grammar session fresh, grammar.start = .ok (session, fresh) →
      (∀ line, ∃ outcome, (session.run fresh line 0).1 = .ok outcome) →
      Transcribes grammar session fresh :=
    fun grammar session fresh hstart hends settings input console hreach hroom =>
      exists_performs_runSession hstart hends hreach hroom input
  have hlanguage : ∀ root session fresh, (Language.grammarOf root).start = .ok (session, fresh) →
      Transcribes (Language.grammarOf root) session fresh := by
    intro root session fresh hstart
    exact hgeneral _ _ _ hstart (exists_outcome_of_start hstart)
  refine ⟨hgeneral, hlanguage, fun rule => ?_, fun session settings front hends tail => ?_⟩
  · cases rule with
    | function => exact ⟨_, _, rfl, hlanguage _ _ _ rfl⟩
    | expression => exact ⟨_, _, rfl, hlanguage _ _ _ rfl⟩
  · obtain ⟨behind, hlines⟩ := exists_splitLines_append_feed front tail
    unfold runSession
    rw [readLines_congr (map_lineOf?_inputLines _), hlines, readLines_append_of_ends hends,
      readLines_congr (map_lineOf?_inputLines _)]

/-- Nothing behind an exit command is read, not even as text. -/
theorem runSession_transcript_exit :
    ∃ session fresh after, Language.expressionGrammar.start = .ok (session, fresh) ∧
      Performs (runSession session {} (Text.encode "42\n\n  EXIT  ".toList ++ [10, 255]))
        { store := fresh } (.ok ⟨1, 0⟩)
        (Text.encode "> Parsed As:\nInteger(42)\n> > ".toList) after := by
  have hstarts : ∃ session fresh, Language.expressionGrammar.start = .ok (session, fresh) ∧
      (splitLines (Text.encode "42\n\n  EXIT  ".toList)).all (goesOn {}) = false ∧
      verdict session fresh {} (splitLines (Text.encode "42\n\n  EXIT  ".toList)) = .ok ⟨1, 0⟩ ∧
      transcript session fresh {} (splitLines (Text.encode "42\n\n  EXIT  ".toList)) =
        Text.encode "> Parsed As:\nInteger(42)\n> > ".toList :=
    ⟨_, _, rfl, by decide +kernel, by decide +kernel, by decide +kernel⟩
  obtain ⟨session, fresh, hstart, hexit, hverdict, htranscript⟩ := hstarts
  have hreach : Language.expressionGrammar.Reaches session fresh := .start hstart
  obtain ⟨hgeneral, _, _, hbehind⟩ := runSession_transcript
  obtain ⟨after, hperforms⟩ := hgeneral _ session fresh hstart (exists_outcome_of_start hstart) {}
    (Text.encode "42\n\n  EXIT  ".toList) { store := fresh } hreach rfl
  rw [hverdict, htranscript, ← hbehind session {} _ hexit [255]] at hperforms
  exact ⟨session, fresh, after, hstart, hperforms⟩

end Sessions

end Console

end Backtrack
