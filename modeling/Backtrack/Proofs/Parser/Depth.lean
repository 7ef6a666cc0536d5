import Mathlib.Data.Finset.Prod
import Mathlib.Order.Interval.Finset.Nat
import Backtrack.Proofs.Parser.Extent

/-! # How deep a derivation goes

    A derivation that enters a rule at a place of the input where it is
    inside that rule already never comes to an end, because the answer at
    that place is one. So no more rules have to be entered one inside the
    other than there are rules, times the places of the input, and a run
    that is given this depth finds everything that can be derived.

    * `Evaluates.replace`: only the names that a derivation calls depend on
      the depth.
    * `evaluates_top_iff`: the depth that always suffices. -/

namespace Backtrack

variable {ρ α : Type}

/-! ## §1. Places -/

/-- The offset at which the next parser of a task is run. -/
def Task.place : Task ρ α → Nat
  | parse _ index => index
  | choose _ _ _ index => index
  | loop _ _ _ _ position _ => position
  | round _ _ _ _ _ behind _ => behind

/-- The offsets that a derivation can come to that starts at an index. -/
def placesFrom (input : Text) (index : Nat) : Finset Nat :=
  insert index (Finset.Icc index input.size)

section Places

variable {rules : ρ → Option (Parser ρ α)} {input : Text} {depth depth' : ℕ∞}
  {index place : Nat} {task : Task ρ α} {outcome : Outcome (Value α)}

theorem mem_placesFrom :
    place ∈ placesFrom input index ↔ place = index ∨ index ≤ place ∧ place ≤ input.size := by
  unfold placesFrom
  rw [Finset.mem_insert, Finset.mem_Icc]

theorem index_mem_placesFrom : index ∈ placesFrom input index :=
  mem_placesFrom.2 (.inl rfl)

/-- There are no more of them than the input has places. -/
theorem card_placesFrom_le : (placesFrom input index).card ≤ input.size + 1 := by
  unfold placesFrom
  by_cases hle : index ≤ input.size
  · rw [Finset.insert_eq_of_mem (Finset.mem_Icc.2 ⟨le_refl index, hle⟩), Nat.card_Icc]
    omega
  · rw [Finset.Icc_eq_empty (by omega), Finset.card_insert_of_notMem (Finset.notMem_empty index),
      Finset.card_empty]
    omega

/-- A match ends at one of the places that can be come to. -/
theorem stop_mem_placesFrom {parser : Parser ρ α} {success : Success (Value α)}
    (hplace : place ∈ placesFrom input index)
    (h : Evaluates rules input depth (.parse parser place) (.success success)) :
    success.stop ∈ placesFrom input index := by
  have hstart : place ≤ success.stop := h.start_le_stop
  have hstop : success.stop ≤ input.size := h.stop_le_size
  rcases mem_placesFrom.1 hplace with rfl | ⟨hlo, _⟩
  · exact mem_placesFrom.2 (.inr ⟨hstart, hstop⟩)
  · exact mem_placesFrom.2 (.inr ⟨hlo.trans hstart, hstop⟩)

/-- If names keep their outcomes at another depth, at all places that can be come to, then every
task does. -/
theorem Evaluates.replace (h : Evaluates rules input depth task outcome)
    (hplace : task.place ∈ placesFrom input index)
    (hcalls : ∀ name place outcome, place ∈ placesFrom input index →
      Evaluates rules input depth (.parse (.deferred name) place) outcome →
      Evaluates rules input depth' (.parse (.deferred name) place) outcome) :
    Evaluates rules input depth' task outcome := by
  induction h with
  | literal text index => exact .literal text index
  | pattern expression index => exact .pattern expression index
  | sequenceFails _ ih => exact .sequenceFails (ih hplace hcalls)
  | sequence h₁ _ ih₁ ih₂ =>
    exact .sequence (ih₁ hplace hcalls) (ih₂ (stop_mem_placesFrom hplace h₁) hcalls)
  | choice _ ih => exact .choice (ih hplace hcalls)
  | exhausted all termination index => exact .exhausted all termination index
  | chosen _ ih => exact .chosen (ih hplace hcalls)
  | passedOver _ _ ih₁ ih₂ => exact .passedOver (ih₁ hplace hcalls) (ih₂ hplace hcalls)
  | repetition _ ih => exact .repetition (ih hplace hcalls)
  | separated _ ih => exact .separated (ih hplace hcalls)
  | full hadmits => exact .full hadmits
  | unseparated hadmits hsep _ ih => exact .unseparated hadmits hsep (ih hplace hcalls)
  | separatorFails hadmits hne _ ih => exact .separatorFails hadmits hne (ih hplace hcalls)
  | separatorMatches hadmits hne h₁ _ ih₁ ih₂ =>
    exact .separatorMatches hadmits hne (ih₁ hplace hcalls)
      (ih₂ (stop_mem_placesFrom hplace h₁) hcalls)
  | roundFails _ ih => exact .roundFails (ih hplace hcalls)
  | roundStays _ hstop ih => exact .roundStays (ih hplace hcalls) hstop
  | roundMoves h₁ hstop _ ih₁ ih₂ =>
    exact .roundMoves (ih₁ hplace hcalls) hstop (ih₂ (stop_mem_placesFrom hplace h₁) hcalls)
  | option _ ih => exact .option (ih hplace hcalls)
  | negation _ ih => exact .negation (ih hplace hcalls)
  | anchored _ ih => exact .anchored (ih hplace hcalls)
  | mapped _ ih => exact .mapped (ih hplace hcalls)
  | converted _ ih => exact .converted (ih hplace hcalls)
  | deferred hrule hdepth h _ => exact hcalls _ _ _ hplace (.deferred hrule hdepth h)

end Places

/-! ## §2. The depth that suffices -/

section Depth

variable {rules : ρ → Option (Parser ρ α)} {input : Text} {index : Nat} {names : Finset ρ}
  {task : Task ρ α} {outcome : Outcome (Value α)}

open Classical in
/-- The rules that have an outcome at a depth, with the places where they have it. -/
noncomputable def answered (rules : ρ → Option (Parser ρ α)) (input : Text) (index : Nat)
    (names : Finset ρ) (depth : ℕ) : Finset (ρ × Nat) :=
  (names ×ˢ placesFrom input index).filter fun call =>
    ∃ outcome, Evaluates rules input depth (.parse (.deferred call.1) call.2) outcome

theorem mem_answered {depth : ℕ} {name : ρ} {place : Nat} :
    (name, place) ∈ answered rules input index names depth ↔
      (name ∈ names ∧ place ∈ placesFrom input index) ∧
        ∃ outcome, Evaluates rules input depth (.parse (.deferred name) place) outcome := by
  classical
  unfold answered
  rw [Finset.mem_filter, Finset.mem_product]

theorem answered_mono {m n : ℕ} (hle : m ≤ n) :
    answered rules input index names m ⊆ answered rules input index names n := by
  rintro ⟨name, place⟩ hmem
  obtain ⟨hcall, outcome, h⟩ := mem_answered.1 hmem
  exact mem_answered.2 ⟨hcall, outcome, h.mono (by exact_mod_cast hle)⟩

theorem card_answered_le {depth : ℕ} :
    (answered rules input index names depth).card ≤ names.card * (input.size + 1) := by
  classical
  unfold answered
  calc
    _ ≤ (names ×ˢ placesFrom input index).card := Finset.card_filter_le _ _
    _ = names.card * (placesFrom input index).card := Finset.card_product _ _
    _ ≤ names.card * (input.size + 1) := Nat.mul_le_mul_left _ card_placesFrom_le

/-- What can be derived at a depth can be derived at the number of calls that have an outcome
there. -/
theorem Evaluates.at_card_answered (hnames : ∀ name parser, rules name = some parser → name ∈ names)
    {n : ℕ} (h : Evaluates rules input n task outcome)
    (hplace : task.place ∈ placesFrom input index) :
    Evaluates rules input (answered rules input index names n).card task outcome := by
  induction n using Nat.strong_induction_on generalizing task outcome with
  | _ n ih =>
  apply h.replace hplace
  intro name place outcome hmem hcall
  -- The call gets its outcome at a depth one above that of the rule's parser.
  classical
  have hex : ∃ m : ℕ, Evaluates rules input m (.parse (.deferred name) place) outcome := ⟨n, hcall⟩
  have hfind := Nat.find_spec hex
  have hle : Nat.find hex ≤ n := Nat.find_min' hex hcall
  have hmin (m : ℕ) (hlt : m < Nat.find hex) :
      ¬ Evaluates rules input m (.parse (.deferred name) place) outcome := Nat.find_min hex hlt
  generalize Nat.find hex = least at hfind hle hmin
  cases least with
  | zero => exact absurd hfind not_evaluates_deferred_zero
  | succ m =>
    obtain ⟨parser, hrule, hinner⟩ := evaluates_deferred_succ_iff.1 hfind
    have hanswered := ih m (by omega) hinner (by exact hmem)
    -- The call itself has no outcome at the depth of the rule's parser, so fewer calls have one.
    have hfewer : answered rules input index names m ⊂ answered rules input index names n := by
      refine Finset.ssubset_iff_of_subset (answered_mono (by omega)) |>.2 ⟨(name, place), ?_, ?_⟩
      · exact mem_answered.2 ⟨⟨hnames name parser hrule, hmem⟩, outcome, hcall⟩
      · intro hold
        obtain ⟨_, outcome', hold⟩ := mem_answered.1 hold
        have heq : outcome = outcome' := hcall.deterministic hold
        rw [← heq] at hold
        exact hmin m (by omega) hold
    have hcard := Finset.card_lt_card hfewer
    exact .deferred hrule (by exact_mod_cast hcard) hanswered

/-- All rules at each place of the input are enough. -/
theorem evaluates_top_iff (hnames : ∀ name parser, rules name = some parser → name ∈ names)
    {depth : ℕ} (hdepth : names.card * (input.size + 1) ≤ depth) {parser : Parser ρ α} :
    Evaluates rules input ⊤ (.parse parser index) outcome ↔
      Evaluates rules input depth (.parse parser index) outcome := by
  constructor
  · intro h
    obtain ⟨n, hn⟩ := h.exists_depth
    have hplace : (Task.parse parser index).place ∈ placesFrom input index := index_mem_placesFrom
    apply (hn.at_card_answered hnames hplace).mono
    exact_mod_cast card_answered_le.trans hdepth
  · intro h
    exact h.mono le_top

end Depth

end Backtrack
