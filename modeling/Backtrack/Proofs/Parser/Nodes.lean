import Backtrack.Proofs.Parser.Subtask

/-! # The nodes of a parser

    A parser holds its parts and the parts of those, and where it mentions a
    rule it holds what the rule stands for. Only nodes that a parser holds
    are ever run for it, on whatever input.

    * `Task.Uses.of_asks`: no step on the way of a run leads to other nodes.
    * `Parser.mem_patterns_of_holds`: the patterns among the nodes are those
      of the parser and of the rules. -/

namespace Backtrack

variable {ρ α : Type}

/-! ## §1. Parts -/

/-- The second parser is a part of the first, or what the first one is a name of. -/
inductive Parser.Part (rules : ρ → Option (Parser ρ α)) : Parser ρ α → Parser ρ α → Prop where
  | first {first next : Parser ρ α} : Part rules (.sequence first next) first
  | next {first next : Parser ρ α} : Part rules (.sequence first next) next
  | alternative {alternatives : List (Parser ρ α)} {parser : Parser ρ α} :
      parser ∈ alternatives → Part rules (.choice alternatives) parser
  | repetition {body : Parser ρ α} {bounds : Bounds} : Part rules (.repetition body bounds) body
  | body {body separator : Parser ρ α} {bounds : Bounds} :
      Part rules (.separated body separator bounds) body
  | separator {body separator : Parser ρ α} {bounds : Bounds} :
      Part rules (.separated body separator bounds) separator
  | option {body : Parser ρ α} : Part rules (.option body) body
  | negation {body : Parser ρ α} : Part rules (.negation body) body
  | anchored {body : Parser ρ α} : Part rules (.anchored body) body
  | mapped {body : Parser ρ α} {convert : Value α → Value α} :
      Part rules (.mapped body convert) body
  | converted {body : Parser ρ α} {convert : Value α → Except String (Value α)} :
      Part rules (.converted body convert) body
  | deferred {name : ρ} {parser : Parser ρ α} :
      rules name = some parser → Part rules (.deferred name) parser

/-- The parser, with the rules that it reaches, contains the node. -/
def Parser.Holds (rules : ρ → Option (Parser ρ α)) (parser node : Parser ρ α) : Prop :=
  Relation.ReflTransGen (Parser.Part rules) parser node

/-- One of the parsers that the task can still run holds the node. -/
def Task.Uses (rules : ρ → Option (Parser ρ α)) (node : Parser ρ α) : Task ρ α → Prop
  | parse parser _ => parser.Holds rules node
  | choose _ _ rest _ => ∃ parser ∈ rest, parser.Holds rules node
  | loop body separator _ _ _ _ =>
    body.Holds rules node ∨ ∃ between ∈ separator, between.Holds rules node
  | round body separator _ _ _ _ _ =>
    body.Holds rules node ∨ ∃ between ∈ separator, between.Holds rules node

section Nodes

variable {rules : ρ → Option (Parser ρ α)} {input : Text} {task task' : Task ρ α}
  {parser node : Parser ρ α}

/-- A node that is used by what a task asks for is used by the task. -/
theorem Task.Uses.of_asks (h : task'.Uses rules node) (hasks : Task.Asks rules input task task') :
    task.Uses rules node := by
  cases hasks with
  | first => exact .head .first h
  | next _ => exact .head .next h
  | choice =>
    obtain ⟨parser, hmem, hholds⟩ := h
    exact .head (.alternative hmem) hholds
  | alternative => exact ⟨_, List.mem_cons_self, h⟩
  | others _ =>
    obtain ⟨parser, hmem, hholds⟩ := h
    exact ⟨parser, List.mem_cons_of_mem _ hmem, hholds⟩
  | repetition =>
    rcases h with hbody | ⟨between, hmem, _⟩
    · exact .head .repetition hbody
    · cases hmem
  | separated =>
    rcases h with hbody | ⟨between, hmem, hbetween⟩
    · exact .head .body hbody
    · cases hmem
      exact .head .separator hbetween
  | unseparated _ _ => exact h
  | separator _ _ => exact .inr ⟨_, rfl, h⟩
  | behind _ _ _ => exact h
  | body => exact .inl h
  | again _ _ => exact h
  | option => exact .head .option h
  | negation => exact .head .negation h
  | anchored => exact .head .anchored h
  | mapped => exact .head .mapped h
  | converted => exact .head .converted h
  | deferred hrule => exact .head (.deferred hrule) h

/-! ## §2. Patterns -/

mutual

/-- The patterns that stand in a parser, those of the rules it mentions left out. -/
def Parser.patterns : Parser ρ α → List Pattern
  | .literal _ => []
  | .pattern expression => [expression]
  | .sequence first next => first.patterns ++ next.patterns
  | .choice alternatives => Parser.patternsAll alternatives
  | .repetition body _ => body.patterns
  | .separated body separator _ => body.patterns ++ separator.patterns
  | .option body => body.patterns
  | .negation body => body.patterns
  | .anchored body => body.patterns
  | .mapped body _ => body.patterns
  | .converted body _ => body.patterns
  | .deferred _ => []

/-- The patterns that stand in several parsers. -/
def Parser.patternsAll : List (Parser ρ α) → List Pattern
  | [] => []
  | parser :: rest => parser.patterns ++ Parser.patternsAll rest

end

theorem Parser.mem_patternsAll {parsers : List (Parser ρ α)} {expression : Pattern}
    (hparser : parser ∈ parsers) (h : expression ∈ parser.patterns) :
    expression ∈ Parser.patternsAll parsers := by
  induction parsers with
  | nil => cases hparser
  | cons first rest ih =>
    unfold Parser.patternsAll
    rcases List.mem_cons.1 hparser with rfl | hrest
    · exact List.mem_append_left _ h
    · exact List.mem_append_right _ (ih hrest)

/-- A pattern of a part is one of the whole, unless the part is what a rule stands for. -/
theorem Parser.Part.mem_patterns (hpart : parser.Part rules node) {expression : Pattern}
    (h : expression ∈ node.patterns) :
    expression ∈ parser.patterns ∨ ∃ name, rules name = some node := by
  cases hpart with
  | first => exact .inl (List.mem_append_left _ h)
  | next => exact .inl (List.mem_append_right _ h)
  | alternative hmem => exact .inl (Parser.mem_patternsAll hmem h)
  | body => exact .inl (List.mem_append_left _ h)
  | separator => exact .inl (List.mem_append_right _ h)
  | repetition | option | negation | anchored | mapped | converted => exact .inl h
  | deferred hrule => exact .inr ⟨_, hrule⟩

/-- A pattern among the nodes of a parser stands in the parser or in what some rule stands for. -/
theorem Parser.mem_patterns_of_holds {expression : Pattern}
    (h : parser.Holds rules (.pattern expression)) :
    expression ∈ parser.patterns ∨
      ∃ name other, rules name = some other ∧ expression ∈ other.patterns := by
  induction h using Relation.ReflTransGen.head_induction_on with
  | refl => exact .inl List.mem_cons_self
  | head hpart _ ih =>
    rcases ih with hmem | hrule
    · rcases hpart.mem_patterns hmem with hwhole | ⟨name, hrule⟩
      · exact .inl hwhole
      · exact .inr ⟨name, _, hrule, hmem⟩
    · exact .inr hrule

end Nodes

end Backtrack
