import Backtrack.Console.Settings
import Backtrack.Toml.Reader

/-!
# Console settings in documents

A document may hold the settings of a console under the name `repl`: as a table, or as an array of
the prompt, the exit command and the rule in this order. What is left out keeps its default, and
names that mean nothing here are passed over.
-/

namespace Backtrack.Settings

open Toml (Item Table)

/-- A text, or the default where nothing is said. -/
def textOf? (default : Text) : Option Item → Option Text
  | none => some default
  | some (.string text) => some text
  | some _ => none

/-- A rule by its name. The name may also stand alone in a table, with nothing under it. -/
def ruleOf? (default : Language.EntryRule) : Option Item → Option Language.EntryRule
  | none => some default
  | some (.string name) => Language.EntryRule.ofName? name.toString
  | some (.table _ [(name, .array [])]) | some (.table _ [(name, .table _ [])]) =>
    Language.EntryRule.ofName? name.toString
  | some _ => none

/-- Settings from the items that stand for each. -/
def ofItems? (prompt exitCommand rule : Option Item) : Option Settings := do
  let default : Settings := {}
  return {
    prompt := ← textOf? default.prompt prompt
    exitCommand := ← textOf? default.exitCommand exitCommand
    rule := ← ruleOf? default.rule rule }

/-- Settings from one item. A date says nothing about any of them. -/
def ofItem? : Item → Option Settings
  | .table origin entries =>
    let table : Table := ⟨origin, entries⟩
    ofItems? (table.find? "prompt".toList) (table.find? "exit_command".toList)
      (table.find? "rule".toList)
  | .array items => ofItems? items[0]? items[1]? items[2]?
  | .moment _ => some {}
  | _ => none

/-- The settings in a document. -/
def ofDocument? (document : Table) : Option Settings :=
  match document.find? "repl".toList with
  | some item => ofItem? item
  | none => some {}

/-- The settings in the text of a document. -/
def ofText? (text : Text) : Option Settings :=
  (Table.ofText? text).bind ofDocument?

end Backtrack.Settings
