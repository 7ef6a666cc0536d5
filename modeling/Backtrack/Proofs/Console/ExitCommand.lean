import Backtrack.Console.Loop
import Backtrack.Program.World
import Backtrack.Proofs.Text.Case

/-! # The line that ends a session

    A console compares a line with the exit command when the blanks around
    the line are gone, and leaves those of the exit command where they are.
    A settings file is refused for an exit command of nothing but blanks, and
    for no other. So there are exit commands that can be configured and never
    be entered: those with blanks at an end.

    * `Console.readLines_exitCommand`: what a console does with the line that
      is its exit command. -/

namespace Backtrack

open Backtrack.Language (RuleName)

/-! ## §1. The exit command -/

/-- Settings come from the text of a file, and have an exit command that is more than blanks. -/
theorem Program.World.settingsAt_eq_ok_iff {world : World} {path : String} {settings : Settings} :
    world.settingsAt path = .ok settings ↔
      ∃ octets text, world.find? path = some (.file octets) ∧ Text.decode? octets = some text ∧
        Settings.ofText? text = some settings ∧ settings.hasExit = true := by
  constructor
  · intro h
    unfold World.settingsAt at h
    split at h
    · cases h
    · cases h
    · next octets hfind =>
      unfold settingsOf at h
      split at h
      · cases h
      · next text hdecode =>
        split at h
        · cases h
        · next found htext =>
          split at h
          · next hexit =>
            cases h
            exact ⟨octets, text, hfind, hdecode, htext, hexit⟩
          · cases h
  · rintro ⟨octets, text, hfind, hdecode, htext, hexit⟩
    simp only [World.settingsAt, settingsOf, hfind, hdecode, htext, hexit, if_true]

section Settings

variable {settings : Settings} {line : Text}

/-- The exit command is taken for it, in any case of its ASCII letters, if it has no blanks at its
ends. -/
theorem Settings.isExit_trim_iff
    (h : line.map Char.toLower = settings.exitCommand.map Char.toLower) :
    settings.isExit (Text.trim line) = true ↔
      Text.trim settings.exitCommand = settings.exitCommand := by
  have hlower : Text.lowercase settings.exitCommand = Text.lowercase line := by
    rw [← Text.lowercase_map_toLower, ← h, Text.lowercase_map_toLower]
  rw [Settings.isExit, beq_iff_eq, hlower, ← Text.trim_eq_self_iff h]
  -- The line without its blanks is compared with the line, both in lower case.
  constructor
  · exact fun hsame => Decidable.byContradiction fun hne => Text.lowercase_trim_ne hne hsame
  · intro hself
    rw [hself]

/-- The exit command is no blank line. -/
theorem Settings.trim_ne_nil (h : line.map Char.toLower = settings.exitCommand.map Char.toLower)
    (hexit : settings.hasExit = true) : Text.trim line ≠ [] := by
  intro hnil
  have hmap := congrArg Text.trim h
  rw [Text.trim_map_toLower, Text.trim_map_toLower, hnil, List.map_nil] at hmap
  have htrim : Text.trim settings.exitCommand = [] := List.map_eq_nil_iff.1 hmap.symm
  simp [Settings.hasExit, htrim] at hexit

end Settings

/-! ## §2. Reading it -/

namespace Console

variable {session : Session RuleName Expression} {settings : Settings} {summary : Summary}
  {octets : List UInt8} {line : Text} {rest : List (List UInt8)}

/-- The session ends with a line that is the exit command. -/
theorem readLines_of_isExit (hdecode : Text.decode? octets = some line)
    (hexit : settings.isExit (Text.trim line) = true) :
    readLines session settings summary (octets :: rest) = (do
      write settings.prompt.toString
      pure summary) := by
  simp only [readLines, answer, hdecode, hexit, if_true, pure_bind]

/-- Any other line that is not blank is evaluated, and the session goes on. -/
theorem readLines_of_not_isExit (hdecode : Text.decode? octets = some line)
    (hexit : settings.isExit (Text.trim line) ≠ true) (hne : Text.trim line ≠ []) :
    readLines session settings summary (octets :: rest) = (do
      write settings.prompt.toString
      let parsed ← evaluate session (Text.trim line)
      readLines session settings (summary.count parsed) rest) := by
  have hblank : (Text.trim line).isEmpty = false := by simpa using hne
  simp only [readLines, answer, hdecode, hexit, hblank, if_false, bind_assoc, pure_bind,
    Bool.false_eq_true]

/-- Lines matter only by how they are read, whatever is read before them. -/
theorem readLines_append_congr {tail tail' : List (List UInt8)}
    (h : ∀ summary, readLines session settings summary tail =
      readLines session settings summary tail') (before : List (List UInt8)) :
    readLines session settings summary (before ++ tail) =
      readLines session settings summary (before ++ tail') := by
  induction before generalizing summary with
  | nil => exact h summary
  | cons octets before ih =>
    simp only [List.cons_append, readLines, ih]

/-- **What a console does with its exit command**, in any case of its ASCII letters. If the exit
command has no blanks at its ends, the session ends with the line, and what stands behind it is not
read. Otherwise the line without its blanks is evaluated like any other, and the session goes on. -/
theorem readLines_exitCommand {world : Program.World} {path : String}
    (hsettings : world.settingsAt path = .ok settings) (hdecode : Text.decode? octets = some line)
    (hline : line.map Char.toLower = settings.exitCommand.map Char.toLower)
    (session : Session RuleName Expression) (summary : Summary) (rest : List (List UInt8)) :
    (Text.trim settings.exitCommand = settings.exitCommand →
      readLines session settings summary (octets :: rest) = (do
          write settings.prompt.toString
          pure summary) ∧
      ∀ before, readLines session settings summary (before ++ octets :: rest) =
        readLines session settings summary (before ++ [octets])) ∧
    (Text.trim settings.exitCommand ≠ settings.exitCommand →
      readLines session settings summary (octets :: rest) = (do
          write settings.prompt.toString
          let parsed ← evaluate session (Text.trim line)
          readLines session settings (summary.count parsed) rest)) := by
  have hexit : settings.isExit (Text.trim line) = true ↔
      Text.trim settings.exitCommand = settings.exitCommand := Settings.isExit_trim_iff hline
  obtain ⟨_, _, _, _, _, hblank⟩ := Program.World.settingsAt_eq_ok_iff.1 hsettings
  refine ⟨fun htrim => ⟨readLines_of_isExit hdecode (hexit.2 htrim), ?_⟩, fun htrim => ?_⟩
  · -- The console stops at the line, so it does not matter whether anything is behind it.
    refine readLines_append_congr fun summary => ?_
    rw [readLines_of_isExit hdecode (hexit.2 htrim), readLines_of_isExit hdecode (hexit.2 htrim)]
  · exact readLines_of_not_isExit hdecode (mt hexit.1 htrim) (Settings.trim_ne_nil hline hblank)

/-! ## §3. Two settings files -/

/-- The text of a settings file that sets an exit command. -/
def exitDocument (command : String) : Text :=
  ("[repl]\nexit_command = \"" ++ command ++ "\"\n").toList

/-- A world with this settings file at every path. -/
def exitWorld (command : String) : Program.World where
  find? _ := some (.file (Text.encode (exitDocument command)))

/-- The exit command `quit`, entered in capitals behind a blank. -/
theorem readLines_exitCommand_quit :
    (exitWorld "quit").settingsAt "" = .ok { exitCommand := "quit".toList } ∧
      Text.decode? (Text.encode "QUIT".toList) = some "QUIT".toList ∧
      "QUIT".toList.map Char.toLower = "quit".toList.map Char.toLower ∧
      ∀ session summary rest, readLines session { exitCommand := "quit".toList } summary
        (Text.encode "QUIT".toList :: rest) = (do write "> "; pure summary) := by
  have hsettings : (exitWorld "quit").settingsAt "" = .ok { exitCommand := "quit".toList } :=
    Program.World.settingsAt_eq_ok_iff.2
      ⟨_, exitDocument "quit", rfl, by decide +kernel, by decide +kernel, by decide +kernel⟩
  have hdecode : Text.decode? (Text.encode "QUIT".toList) = some "QUIT".toList := by
    decide +kernel
  have hline : "QUIT".toList.map Char.toLower = "quit".toList.map Char.toLower := by decide
  refine ⟨hsettings, hdecode, hline, fun session summary rest => ?_⟩
  obtain ⟨htrimmed, _⟩ := readLines_exitCommand hsettings hdecode hline session summary rest
  exact (htrimmed (by decide +kernel)).1

/-- The exit command is taken from a file with the blanks around it, and with them it does not end
a session. -/
theorem not_forall_exitCommand_ends :
    ¬ ∀ (world : Program.World) (path : String) (settings : Settings) (octets : List UInt8)
      (session : Session RuleName Expression) (summary : Summary) (rest : List (List UInt8)),
      world.settingsAt path = .ok settings → '\n' ∉ settings.exitCommand →
      Text.decode? octets = some settings.exitCommand →
      readLines session settings summary (octets :: rest) = (do
        write settings.prompt.toString
        pure summary) := by
  intro hends
  have hsettings : (exitWorld " quit ").settingsAt "" = .ok { exitCommand := " quit ".toList } :=
    Program.World.settingsAt_eq_ok_iff.2
      ⟨_, exitDocument " quit ", rfl, by decide +kernel, by decide +kernel, by decide +kernel⟩
  have hdecode : Text.decode? (Text.encode " quit ".toList) = some " quit ".toList := by
    decide +kernel
  -- A parser that fails everywhere rejects the line, and the summary counts it.
  let session : Session RuleName Expression := ⟨[], [], .choice []⟩
  have hstops := hends (exitWorld " quit ") "" { exitCommand := " quit ".toList }
    (Text.encode " quit ".toList) session {} [] hsettings (by decide +kernel) hdecode
  have hcounts : ((readLines session { exitCommand := " quit ".toList } {}
      [Text.encode " quit ".toList]).run.run ⟨⟨0, [], []⟩, {}, []⟩).1 = .ok ⟨0, 1⟩ := by
    rw [readLines_of_not_isExit hdecode (by decide +kernel) (by decide +kernel)]
    rfl
  rw [hstops] at hcounts
  cases hcounts

end Console

end Backtrack
