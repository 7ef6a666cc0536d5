import Backtrack.Parser.Evaluate

/-! # Names in a parser

    Which deferred parsers a tree mentions, and the same tree over other
    names. A parser that is built mentions cells where the written one
    mentions rules, so what holds of both is what does not depend on names:
    the written form is one of these things (`render_rename`).

    `Parser.induction` is induction over trees, with the alternatives of a
    choice as the members of a list. -/

namespace Backtrack.Parser

variable {ρ σ α : Type}

/-! ## §1. Induction over trees -/

/-- Induction over a parser, in which the alternatives of a choice are the members of a list. -/
@[elab_as_elim]
theorem induction {motive : Parser ρ α → Prop}
    (literal : ∀ text, motive (literal text))
    (pattern : ∀ expression, motive (pattern expression))
    (sequence : ∀ first next, motive first → motive next → motive (sequence first next))
    (choice : ∀ alternatives, (∀ parser ∈ alternatives, motive parser) →
      motive (choice alternatives))
    (repetition : ∀ body bounds, motive body → motive (repetition body bounds))
    (separated : ∀ body separator bounds, motive body → motive separator →
      motive (separated body separator bounds))
    (option : ∀ body, motive body → motive (option body))
    (negation : ∀ body, motive body → motive (negation body))
    (anchored : ∀ body, motive body → motive (anchored body))
    (mapped : ∀ body convert, motive body → motive (mapped body convert))
    (converted : ∀ body convert, motive body → motive (converted body convert))
    (deferred : ∀ name, motive (deferred name)) (parser : Parser ρ α) : motive parser := by
  -- The recursor has a second motive, for the lists of alternatives.
  refine @Parser.rec ρ α motive (fun parsers => ∀ parser ∈ parsers, motive parser) literal pattern
    sequence choice repetition separated option negation anchored mapped converted deferred ?_ ?_
    parser
  · intro parser hmem
    exact absurd hmem List.not_mem_nil
  · intro first rest hfirst hrest parser hmem
    rcases List.mem_cons.1 hmem with rfl | hmem
    · exact hfirst
    · exact hrest parser hmem

/-! ## §2. Mentions -/

/-- The parser mentions a name. -/
inductive Mentions : Parser ρ α → ρ → Prop where
  | deferred (name : ρ) : Mentions (deferred name) name
  | first {first next : Parser ρ α} {name : ρ} :
      Mentions first name → Mentions (sequence first next) name
  | next {first next : Parser ρ α} {name : ρ} :
      Mentions next name → Mentions (sequence first next) name
  | alternative {alternatives : List (Parser ρ α)} {parser : Parser ρ α} {name : ρ} :
      parser ∈ alternatives → Mentions parser name → Mentions (choice alternatives) name
  | repetition {body : Parser ρ α} {bounds : Bounds} {name : ρ} :
      Mentions body name → Mentions (repetition body bounds) name
  | body {body separator : Parser ρ α} {bounds : Bounds} {name : ρ} :
      Mentions body name → Mentions (separated body separator bounds) name
  | separator {body separator : Parser ρ α} {bounds : Bounds} {name : ρ} :
      Mentions separator name → Mentions (separated body separator bounds) name
  | option {body : Parser ρ α} {name : ρ} : Mentions body name → Mentions (option body) name
  | negation {body : Parser ρ α} {name : ρ} : Mentions body name → Mentions (negation body) name
  | anchored {body : Parser ρ α} {name : ρ} : Mentions body name → Mentions (anchored body) name
  | mapped {body : Parser ρ α} {convert : Value α → Value α} {name : ρ} :
      Mentions body name → Mentions (mapped body convert) name
  | converted {body : Parser ρ α} {convert : Value α → Except String (Value α)} {name : ρ} :
      Mentions body name → Mentions (converted body convert) name

/-! ## §3. Other names -/

mutual

/-- The same parser over other names. -/
def rename (f : ρ → σ) : Parser ρ α → Parser σ α
  | literal text => literal text
  | pattern expression => pattern expression
  | sequence first next => sequence (first.rename f) (next.rename f)
  | choice alternatives => choice (renameAll f alternatives)
  | repetition body bounds => repetition (body.rename f) bounds
  | separated body separator bounds => separated (body.rename f) (separator.rename f) bounds
  | option body => option (body.rename f)
  | negation body => negation (body.rename f)
  | anchored body => anchored (body.rename f)
  | mapped body convert => mapped (body.rename f) convert
  | converted body convert => converted (body.rename f) convert
  | deferred name => deferred (f name)

/-- The same parsers over other names. -/
def renameAll (f : ρ → σ) : List (Parser ρ α) → List (Parser σ α)
  | [] => []
  | parser :: rest => parser.rename f :: renameAll f rest

end

theorem renameAll_eq_map (f : ρ → σ) (parsers : List (Parser ρ α)) :
    renameAll f parsers = parsers.map (rename f) := by
  induction parsers with
  | nil => rfl
  | cons parser rest ih => simp only [renameAll, ih, List.map_cons]

theorem renderAll_eq_map (parsers : List (Parser ρ α)) :
    renderAll parsers = parsers.map render := by
  induction parsers with
  | nil => rfl
  | cons parser rest ih => simp only [renderAll, ih, List.map_cons]

/-- Over the same names it is the same parser. -/
@[simp] theorem rename_id (parser : Parser ρ α) : parser.rename id = parser := by
  induction parser using induction with
  | literal text => rfl
  | pattern expression => rfl
  | sequence first next hfirst hnext => simp only [rename, hfirst, hnext]
  | choice alternatives ih =>
    have hall : alternatives.map (rename id) = alternatives :=
      (List.map_congr_left ih).trans (List.map_id alternatives)
    simp only [rename, renameAll_eq_map, hall]
  | repetition body bounds ih => simp only [rename, ih]
  | separated body separator bounds hbody hseparator => simp only [rename, hbody, hseparator]
  | option body ih => simp only [rename, ih]
  | negation body ih => simp only [rename, ih]
  | anchored body ih => simp only [rename, ih]
  | mapped body convert ih => simp only [rename, ih]
  | converted body convert ih => simp only [rename, ih]
  | deferred name => rfl

/-- The written form does not depend on names. -/
@[simp] theorem render_rename (f : ρ → σ) (parser : Parser ρ α) :
    (parser.rename f).render = parser.render := by
  induction parser using induction with
  | literal text => rfl
  | pattern expression => rfl
  | sequence first next hfirst hnext => simp only [rename, render, hfirst, hnext]
  | choice alternatives ih =>
    have hall : alternatives.map (render ∘ rename f) = alternatives.map render :=
      List.map_congr_left fun parser hmem => ih parser hmem
    simp only [rename, render, renderAll_eq_map, renameAll_eq_map, List.map_map, hall]
  | repetition body bounds ih => simp only [rename, render, ih]
  | separated body separator bounds hbody hseparator =>
    simp only [rename, render, hbody, hseparator]
  | option body ih => simp only [rename, render, ih]
  | negation body ih => simp only [rename, render, ih]
  | anchored body ih => simp only [rename, render, ih]
  | mapped body convert ih => simp only [rename, render, ih]
  | converted body convert ih => simp only [rename, render, ih]
  | deferred name => rfl

/-- The written forms of the alternatives of a choice do not depend on names. -/
@[simp] theorem renderAll_renameAll (f : ρ → σ) (parsers : List (Parser ρ α)) :
    renderAll (renameAll f parsers) = renderAll parsers := by
  simp only [renderAll_eq_map, renameAll_eq_map, List.map_map]
  exact List.map_congr_left fun parser _ => render_rename f parser

/-! ## §4. What depends on the written form only -/

section Written

variable (f : ρ → σ) (input : Text) (body : Parser ρ α) (index : Nat)

@[simp] theorem finishRounds_rename (bounds : Bounds) :
    finishRounds input (body.rename f) bounds index = finishRounds input body bounds index := by
  funext result
  simp only [finishRounds, render_rename]

@[simp] theorem inverted_rename :
    inverted input (body.rename f) index = inverted input body index := by
  funext outcome
  cases outcome <;> simp only [inverted, render_rename]

@[simp] theorem convertOutcome_rename (convert : Value α → Except String (Value α)) :
    convertOutcome (body.rename f) convert index = convertOutcome body convert index := by
  funext outcome
  cases outcome <;> simp only [convertOutcome, render_rename]

@[simp] theorem noneMatched_renameAll (alternatives : List (Parser ρ α)) :
    noneMatched (renameAll f alternatives) index = noneMatched alternatives index := by
  funext termination
  cases termination <;> simp only [noneMatched, renderAll_renameAll]

end Written

end Backtrack.Parser
