import Backtrack.Expression.Language
import Backtrack.Proofs.Session.Adequacy

/-! # The rules of the expression language

    What the two rules of the language stand for in every session of it, so
    that a run of one of its grammars answers what can be derived for the
    grammar's root over these rules (`Language.run_eq_ok_iff`). -/

namespace Backtrack.Language

open Expression

variable {root : Part} {session : Session RuleName Expression}
  {store : Store RuleName Expression} {input : Text} {index : Nat}

/-- The rule that a mention names. Nothing is shared in the language. -/
def target : Mention RuleName → RuleName
  | .rule name => name
  | .shared _ => .expression

/-- A part of the language over its rules. -/
def onRules (part : Part) : Parser RuleName Expression :=
  part.rename target

/-- What the rules stand for. -/
def meaning : RuleName → Option (Parser RuleName Expression)
  | .expression => some (onRules expression)
  | .withArguments => some (onRules applicationWithArguments)

/-! ## §1. The parts over the rules -/

theorem onRules_literal : onRules literal =
    .choice [.mapped (.pattern stringPattern) ofQuoted,
      .converted (.pattern doublePattern) ofDecimal,
      .converted (.pattern integerPattern) ofDigits] :=
  rfl

theorem onRules_expression : onRules expression =
    .choice [onRules literal, .mapped (.pattern identifierPattern) ofName,
      .mapped (onRules application) ofParts] :=
  rfl

theorem onRules_application : onRules application =
    .choice [onRules bareApplication, .deferred .withArguments] :=
  rfl

theorem onRules_bareApplication : onRules bareApplication =
    .mapped
      (.sequence (.sequence (.pattern openPattern) (.pattern identifierPattern))
        (.pattern closePattern))
      bareParts :=
  rfl

theorem onRules_arguments : onRules arguments =
    .separated (.deferred .expression) (.pattern blanksPattern) .atLeastOnce :=
  rfl

theorem onRules_applicationWithArguments : onRules applicationWithArguments =
    .mapped
      (.sequence
        (.sequence
          (.sequence (.sequence (.pattern openPattern) (.pattern identifierPattern))
            (.pattern blanksPattern))
          (onRules arguments))
        (.pattern closePattern))
      partsWithArguments :=
  rfl

/-! ## §2. Sessions of the language -/

/-- A part that can be built is built over the rules. -/
theorem rule?_of_build {name : RuleName} {part : Part} (hshared : session.shared = [])
    (hlookup : session.rules.lookup name = some part)
    (hbuild : ((build [] part).run 0).isOk = true) : session.rule? name = some (onRules part) := by
  cases hrun : (build [] part).run 0 with
  | error stop =>
    rw [hrun] at hbuild
    cases hbuild
  | ok pair =>
    obtain ⟨parser, cells⟩ := pair
    have hover : parser.overRules = onRules part := overRules_of_build (fun _ => rfl) hrun
    rw [← hover]
    exact Session.rule?_eq_some_of_build hlookup (by rw [hshared]; exact hrun)

/-- In every session of the language the rules have their meaning. -/
theorem meaning_of_start (h : (grammarOf root).start = .ok (session, store)) :
    session.rule? = meaning ∧ session.parser = onRules root := by
  obtain ⟨m, hshared, hroot, hrules, _⟩ := Grammar.exists_of_start h
  obtain ⟨hnone, _⟩ := Prod.mk.inj (Construct.run_pure_eq_ok_iff.1 hshared)
  rw [hnone] at hroot
  refine ⟨?_, overRules_of_build (fun _ => rfl) hroot⟩
  funext name
  cases name with
  | expression => exact rule?_of_build hnone (by rw [hrules]; rfl) rfl
  | withArguments => exact rule?_of_build hnone (by rw [hrules]; rfl) rfl

theorem meaning_of_reaches (h : (grammarOf root).Reaches session store) :
    session.rule? = meaning ∧ session.parser = onRules root := by
  induction h with
  | start hstart => exact meaning_of_start hstart
  | run _ _ _ ih => exact ih

/-- A run answers what can be derived for the root. -/
theorem run_eq_ok_iff (h : (grammarOf root).Reaches session store)
    {outcome : Outcome (Value Expression)} :
    (session.run store input index).1 = .ok outcome ↔
      Evaluates meaning input ⊤ (.parse (onRules root) index) outcome := by
  obtain ⟨hmeaning, hroot⟩ := meaning_of_reaches h
  rw [h.run_eq_ok_iff, hmeaning, hroot]

end Backtrack.Language
