import Backtrack.Proofs.Console.Limit
import Backtrack.Proofs.Console.Transcript
import Backtrack.Proofs.Session.Places

/-! # What a report labels

    A report of a failure draws a label under the part of the text that the
    failure points at. Nothing that is drawn may lie outside of the text,
    whatever the failure and whatever the text. Of a line that was rejected,
    the label stands under one character, the one that the failure is about,
    or behind the last one.

    * `Failure.span_inside`: spans never leave the text.
    * `Console.evaluate_eq_false_iff`: when a line is rejected.
    * `Console.label_on_character`: the label of a rejected line. -/

namespace Backtrack

/-! ## §1. Spans -/

section Spans

variable {failure : Failure} {text rest : Text} {found : Char}

/-- A failure at a character points at this character. -/
theorem Failure.span_of_dropBytes? (h : text.dropBytes? failure.index = some (found :: rest)) :
    failure.span text = ⟨failure.index, found.utf8Size⟩ := by
  have hboundary : text.isBoundary failure.index = true := by
    unfold Text.isBoundary
    rw [h]
    rfl
  have hoffset : min failure.index text.size = failure.index :=
    min_eq_left (Text.le_size_of_isBoundary hboundary)
  unfold Failure.span
  simp only [hoffset, h]

/-- A failure at the end of a text, or past it, points at nothing behind the text. -/
theorem Failure.span_of_size_le (h : text.size ≤ failure.index) :
    failure.span text = ⟨text.size, 0⟩ := by
  have hoffset : min failure.index text.size = text.size := min_eq_right h
  have hrest : text.dropBytes? text.size = some [] :=
    Text.dropBytes?_eq_some_iff.2 ⟨text, by simp, rfl⟩
  unfold Failure.span
  simp only [hoffset, hrest]

/-- A character that starts at an offset ends inside of the text. -/
theorem Text.add_utf8Size_le {offset : Nat} (h : text.dropBytes? offset = some (found :: rest)) :
    offset + found.utf8Size ≤ text.size := by
  obtain ⟨front, htext, hfront⟩ := Text.dropBytes?_eq_some_iff.1 h
  rw [htext, Text.size_append, Text.size_cons]
  omega

/-- The character that starts at an offset is what stands between its two ends. -/
theorem Text.slice?_character {offset : Nat} (h : text.dropBytes? offset = some (found :: rest)) :
    text.slice? offset (offset + found.utf8Size) = some [found] := by
  obtain ⟨front, htext, hfront⟩ := Text.dropBytes?_eq_some_iff.1 h
  refine Text.slice?_eq_some_iff.2 ⟨front, rest, ?_, hfront, ?_⟩
  · rw [htext]
    simp
  · rw [Text.size_cons]
    rfl

/-- **No span leaves its text**, whatever the index of the failure: past the end of the text, or
inside of one of its characters. -/
theorem Failure.span_inside (failure : Failure) (text : Text) :
    (failure.span text).offset ≤ text.size ∧
      (failure.span text).offset + (failure.span text).size ≤ text.size := by
  have hoffset : min failure.index text.size ≤ text.size := min_le_right _ _
  unfold Failure.span
  dsimp only
  split
  · next found rest hrest => exact ⟨hoffset, Text.add_utf8Size_le hrest⟩
  · exact ⟨hoffset, hoffset⟩

end Spans

/-! ## §2. Labels -/

/-- The label stands where the failure points: under the one character of the line that starts
there, or under nothing behind the last one. -/
structure Label.Marks (label : Label) (failure : Failure) (line : Text) : Prop where
  text : label.text = line
  offset : label.span.offset = failure.index
  boundary : line.isBoundary label.span.offset = true
  inside : label.span.offset + label.span.size ≤ line.size
  character : failure.index ≠ line.size → ∃ found rest,
    line.dropBytes? failure.index = some (found :: rest) ∧
      line.slice? label.span.offset (label.span.offset + label.span.size) = some [found]
  empty_iff : label.span.size = 0 ↔ failure.index = line.size

/-- A report of a failure labels the text, with the failure's span. -/
def Failure.label (failure : Failure) (text : Text) : Label :=
  ⟨text, failure.span text, failure.kind.name ++ " failure"⟩

theorem Failure.report_label (failure : Failure) (text : Text) :
    (failure.report text).label = some (failure.label text) :=
  rfl

/-- A label marks what its span covers: the character that starts where the failure points, or
nothing where the line ends. -/
theorem Failure.label_marks_of_span {failure : Failure} {line : Text} {size : Nat}
    (hspan : failure.span line = ⟨failure.index, size⟩)
    (hboundary : line.isBoundary failure.index = true)
    (hinside : failure.index + size ≤ line.size)
    (hcharacter : failure.index ≠ line.size → ∃ found rest,
      line.dropBytes? failure.index = some (found :: rest) ∧
        line.slice? failure.index (failure.index + size) = some [found])
    (hempty : size = 0 ↔ failure.index = line.size) :
    (failure.label line).Marks failure line := by
  unfold Failure.label
  rw [hspan]
  exact ⟨rfl, rfl, hboundary, hinside, hcharacter, hempty⟩

/-- A failure that points at a place of the line has its label there. -/
theorem Failure.label_marks {failure : Failure} {line : Text}
    (hboundary : line.isBoundary failure.index = true) :
    (failure.label line).Marks failure line := by
  by_cases hend : failure.index = line.size
  · have hspan : failure.span line = ⟨failure.index, 0⟩ := by
      rw [Failure.span_of_size_le (Nat.le_of_eq hend.symm), hend]
    exact Failure.label_marks_of_span hspan hboundary (Nat.le_of_eq hend)
      (fun hne => absurd hend hne) (iff_of_true rfl hend)
  · -- What is left of the line has a first character, and a character takes a byte at least.
    obtain ⟨found, rest, hrest⟩ := Text.exists_dropBytes?_of_ne hboundary hend
    have hpos : 0 < found.utf8Size := found.utf8Size_pos
    exact Failure.label_marks_of_span (Failure.span_of_dropBytes? hrest) hboundary
      (Text.add_utf8Size_le hrest) (fun _ => ⟨found, rest, hrest, Text.slice?_character hrest⟩)
      (iff_of_false (Nat.ne_of_gt hpos) hend)

/-! ## §3. Rejected lines -/

namespace Console

open Backtrack.Language (RuleName)

section Rejected

variable {session : Session RuleName Expression} {console : Console} {line : Text}

/-- What is written of a line that is rejected. -/
def rejection (failure : Failure) (line : Text) : List UInt8 :=
  Text.encode ((failure.report line).render .drawn).toList

/-- Parsing a line gives what the run gives, and leaves the output as it is. -/
theorem exists_run_parse (session : Session RuleName Expression) (line : Text)
    (console : Console) : ∃ after, after.sink = console.sink ∧
      (parse session line).run.run console =
        ((session.run console.store line 0).1.mapError fun stop => .other stop.message, after) := by
  rcases hrun : session.run console.store line 0 with ⟨result, store, resolved⟩
  refine ⟨{ console with
    store, events := resolved.map (fun _ => resolvedEvent) ++ console.events }, rfl, ?_⟩
  unfold parse
  simp only [Run.run_bind, run_get, hrun]
  cases result with
  | error stop => rfl
  | ok outcome => rfl

/-- A write with an answer behind it, which is given if the output takes the text whole. -/
theorem run_write_pure (text : String) (answer : Bool) (console : Console) :
    (write text >>= fun _ => pure answer).run.run console =
      (if (console.sink.write (Text.encode text.toList)).2 then .ok answer else .error .refused,
        { console with sink := (console.sink.write (Text.encode text.toList)).1 }) := by
  rw [Run.run_bind, run_write]
  by_cases htaken : (console.sink.write (Text.encode text.toList)).2 = true
  · rw [if_pos htaken, if_pos htaken]
    rfl
  · rw [if_neg htaken, if_neg htaken]

/-- Of a line whose run fails the report is written, and the line is rejected if the output takes
all of it. -/
theorem evaluate_of_failure {failure : Failure}
    (hrun : (session.run console.store line 0).1 = .ok (.failure failure)) :
    ((evaluate session line).run.run console).1 =
        (if (console.sink.write (rejection failure line)).2 then .ok false else .error .refused) ∧
      ((evaluate session line).run.run console).2.sink =
        (console.sink.write (rejection failure line)).1 := by
  obtain ⟨middle, hsink, hparse⟩ := exists_run_parse session line console
  have hevaluate : (evaluate session line).run.run console =
      (write ((failure.report line).render .drawn) >>= fun _ => pure false).run.run
        { middle with events := rejectedEvent failure :: middle.events } := by
    rw [evaluate_eq_bind, Run.run_bind, hparse, hrun]
    rfl
  rw [hevaluate, run_write_pure]
  simp only [hsink]
  exact ⟨rfl, rfl⟩

/-- A line whose run succeeds is not rejected. -/
theorem evaluate_of_success {success : Success (Value Expression)}
    (hrun : (session.run console.store line 0).1 = .ok (.success success)) :
    ((evaluate session line).run.run console).1 ≠ .ok false := by
  obtain ⟨middle, hsink, hparse⟩ := exists_run_parse session line console
  have hevaluate : (evaluate session line).run.run console =
      (write "Parsed As:\n" >>= fun _ =>
        write (displayValue success.value ++ "\n") >>= fun _ => pure true).run.run middle := by
    rw [evaluate_eq_bind, Run.run_bind, hparse, hrun]
    rfl
  rw [hevaluate, Run.run_bind, run_write]
  by_cases htaken : (middle.sink.write (Text.encode "Parsed As:\n".toList)).2 = true
  · rw [if_pos htaken]
    simp only [run_write_pure]
    intro h
    split at h
    · cases h
    · cases h
  · rw [if_neg htaken]
    nofun

/-- **A line is rejected if its run fails**, and the output takes the report whole. -/
theorem evaluate_eq_false_iff :
    ((evaluate session line).run.run console).1 = .ok false ↔
      ∃ failure, (session.run console.store line 0).1 = .ok (.failure failure) ∧
        (console.sink.write (rejection failure line)).2 = true := by
  cases hrun : (session.run console.store line 0).1 with
  | error stop =>
    obtain ⟨middle, _, hparse⟩ := exists_run_parse session line console
    rw [evaluate_eq_bind, Run.run_bind, hparse, hrun]
    exact ⟨nofun, nofun⟩
  | ok outcome =>
    cases outcome with
    | success success => exact ⟨fun h => absurd h (evaluate_of_success hrun), nofun⟩
    | failure failure =>
      rw [(evaluate_of_failure hrun).1]
      constructor
      · intro h
        refine ⟨failure, rfl, ?_⟩
        by_contra hrefused
        rw [if_neg hrefused] at h
        cases h
      · intro h
        obtain ⟨other, hother, htaken⟩ := h
        cases hother
        rw [if_pos htaken]

end Rejected

/-- **Labels are on characters.** For every rule and every line, from every store that earlier lines
leave behind: if the line is rejected, the report of its failure is what is written, and the label
in the report stands on the line where the failure points, inside of the line, under the one
character that starts there, or under nothing where the line ends. And whatever the failure and
whatever the text, a label never leaves its text. -/
theorem label_on_character :
    (∀ (rule : Language.EntryRule) (session : Session RuleName Expression) (console : Console)
        (line : Text),
      (Language.ruleGrammar rule).Reaches session console.store →
      ((evaluate session line).run.run console).1 = .ok false →
      ∃ failure label, (session.run console.store line 0).1 = .ok (.failure failure) ∧
        ((evaluate session line).run.run console).2.sink =
          (console.sink.write (Text.encode ((failure.report line).render .drawn).toList)).1 ∧
        (failure.report line).label = some label ∧ label.Marks failure line) ∧
    ∀ (failure : Failure) (text : Text), ∃ label,
      (failure.report text).label = some label ∧ label.text = text ∧
        label.span.offset ≤ text.size ∧ label.span.offset + label.span.size ≤ text.size := by
  refine ⟨fun rule session console line hreach hreject => ?_, fun failure text => ?_⟩
  · obtain ⟨failure, hrun, _⟩ := evaluate_eq_false_iff.1 hreject
    have hstart : line.isBoundary 0 = true := Text.isBoundary_iff.2 ⟨[], line, rfl, rfl⟩
    obtain ⟨_, hboundary, _⟩ := hreach.failure_points hstart hrun
    exact ⟨failure, failure.label line, hrun, (evaluate_of_failure hrun).2,
      failure.report_label line, Failure.label_marks hboundary⟩
  · exact ⟨failure.label text, failure.report_label text, rfl, failure.span_inside text⟩

/-- Behind a number the line should have ended, and the label covers both bytes of the letter that
stands there. -/
theorem label_on_character_accent :
    ∃ session fresh failure label,
      (Language.ruleGrammar .expression).Reaches session fresh ∧
      ((evaluate session ['1', 'é']).run.run { store := fresh }).1 = .ok false ∧
      (session.run fresh ['1', 'é'] 0).1 = .ok (.failure failure) ∧
      (failure.report ['1', 'é']).label = some label ∧ label.span = ⟨1, 2⟩ ∧
      label.Marks failure ['1', 'é'] := by
  have hstarts : ∃ session fresh, (Language.ruleGrammar .expression).start = .ok (session, fresh) ∧
      ((evaluate session ['1', 'é']).run.run { store := fresh }).1 = .ok false ∧
      (session.run fresh ['1', 'é'] 0).1.toOption.bind Outcome.failure? =
        some (.trailing 'é' 1) :=
    ⟨_, _, rfl, by decide +kernel, by decide +kernel⟩
  obtain ⟨session, fresh, hstart, hreject, hfailure⟩ := hstarts
  have hreach : (Language.ruleGrammar .expression).Reaches session fresh := .start hstart
  obtain ⟨failure, label, hrun, _, hlabel, hmarks⟩ :=
    label_on_character.1 .expression session { store := fresh } ['1', 'é'] hreach hreject
  rw [hrun] at hfailure
  obtain rfl : failure = .trailing 'é' 1 := Option.some.inj hfailure
  cases hlabel
  exact ⟨session, fresh, _, _, hreach, hreject, hrun, rfl, by decide, hmarks⟩

end Console

end Backtrack
