import Mathlib.Logic.Relation
import Backtrack.Regex.Matcher

/-! # What the matcher finds

    A program read as a search that goes back: at each address it has a list
    of matches in order of preference, and the first of them is the one to
    be found. `Leads` is this list, where it can be told in finitely many
    steps. It leaves out assertions.

    The matcher follows all ways at once and visits no address twice at one
    place. Nothing is lost by that: a way that comes to an address again has
    no match, or one that a thread with a better claim has as well
    (`Covered`).

    * `explore_spec`: exploring keeps the first match.
    * `matchAt_eq_of_leads`: the matcher finds the first match. -/

namespace Backtrack.Regex

/-! ## §1. The matches of an address -/

/-- What is left of the text behind the matches that an address leads to, in order of preference. -/
inductive Leads (program : Array Instruction) : List Char → Nat → List (List Char) → Prop where
  | takes {c : Char} {rest : List Char} {address : Nat} {chars : CharSet}
      {ends : List (List Char)} :
      program[address]? = some (.take chars) → chars.contains c = true →
      Leads program rest (address + 1) ends → Leads program (c :: rest) address ends
  | refuses {rest : List Char} {address : Nat} {chars : CharSet} :
      program[address]? = some (.take chars) → (∀ c ∈ rest.head?, chars.contains c = false) →
      Leads program rest address []
  | fork {rest : List Char} {address first second : Nat} {ends ends' : List (List Char)} :
      program[address]? = some (.fork first second) → Leads program rest first ends →
      Leads program rest second ends' → Leads program rest address (ends ++ ends')
  | jump {rest : List Char} {address target : Nat} {ends : List (List Char)} :
      program[address]? = some (.jump target) → Leads program rest target ends →
      Leads program rest address ends
  | stop {rest : List Char} {address : Nat} :
      program[address]? = some .stop → Leads program rest address [rest]

section Leads

variable {program : Array Instruction} {rest : List Char} {c : Char}
  {address first second target : Nat} {chars : CharSet} {ends ends' : List (List Char)}

theorem leads_take_cons_iff (hat : program[address]? = some (.take chars)) :
    Leads program (c :: rest) address ends ↔
      if chars.contains c then Leads program rest (address + 1) ends else ends = [] := by
  constructor
  · intro h
    cases h with
    | takes hat' hc h =>
      cases hat.symm.trans hat'
      rw [if_pos hc]
      exact h
    | refuses hat' hc =>
      cases hat.symm.trans hat'
      rw [if_neg (by simpa using hc)]
    | fork hat' _ _ => cases hat.symm.trans hat'
    | jump hat' _ => cases hat.symm.trans hat'
    | stop hat' => cases hat.symm.trans hat'
  · intro h
    split at h
    · next hc => exact .takes hat hc h
    · next hc =>
      subst h
      exact .refuses hat (by simpa using hc)

theorem leads_take_nil_iff (hat : program[address]? = some (.take chars)) :
    Leads program [] address ends ↔ ends = [] := by
  constructor
  · intro h
    cases h with
    | refuses _ _ => rfl
    | fork hat' _ _ => cases hat.symm.trans hat'
    | jump hat' _ => cases hat.symm.trans hat'
    | stop hat' => cases hat.symm.trans hat'
  · rintro rfl
    exact .refuses hat (by simp)

theorem leads_fork_iff (hat : program[address]? = some (.fork first second)) :
    Leads program rest address ends ↔
      ∃ ends₁ ends₂, Leads program rest first ends₁ ∧ Leads program rest second ends₂ ∧
        ends = ends₁ ++ ends₂ := by
  constructor
  · intro h
    cases h with
    | takes hat' _ _ => cases hat.symm.trans hat'
    | refuses hat' _ => cases hat.symm.trans hat'
    | fork hat' h₁ h₂ =>
      cases hat.symm.trans hat'
      exact ⟨_, _, h₁, h₂, rfl⟩
    | jump hat' _ => cases hat.symm.trans hat'
    | stop hat' => cases hat.symm.trans hat'
  · rintro ⟨ends₁, ends₂, h₁, h₂, rfl⟩
    exact .fork hat h₁ h₂

theorem leads_jump_iff (hat : program[address]? = some (.jump target)) :
    Leads program rest address ends ↔ Leads program rest target ends := by
  constructor
  · intro h
    cases h with
    | takes hat' _ _ => cases hat.symm.trans hat'
    | refuses hat' _ => cases hat.symm.trans hat'
    | fork hat' _ _ => cases hat.symm.trans hat'
    | jump hat' h =>
      cases hat.symm.trans hat'
      exact h
    | stop hat' => cases hat.symm.trans hat'
  · exact .jump hat

theorem leads_stop_iff (hat : program[address]? = some .stop) :
    Leads program rest address ends ↔ ends = [rest] := by
  constructor
  · intro h
    cases h with
    | takes hat' _ _ => cases hat.symm.trans hat'
    | refuses hat' _ => cases hat.symm.trans hat'
    | fork hat' _ _ => cases hat.symm.trans hat'
    | jump hat' _ => cases hat.symm.trans hat'
    | stop _ => rfl
  · rintro rfl
    exact .stop hat

theorem Leads.deterministic (h : Leads program rest address ends)
    (h' : Leads program rest address ends') : ends = ends' := by
  induction h generalizing ends' with
  | takes hat hc _ ih =>
    rw [leads_take_cons_iff hat, if_pos hc] at h'
    exact ih h'
  | @refuses rest address chars hat hc =>
    cases rest with
    | nil => exact ((leads_take_nil_iff hat).1 h').symm
    | cons c rest =>
      rw [leads_take_cons_iff hat, if_neg (by simpa using hc)] at h'
      exact h'.symm
  | fork hat _ _ ih₁ ih₂ =>
    obtain ⟨ends₁, ends₂, h₁, h₂, rfl⟩ := (leads_fork_iff hat).1 h'
    rw [ih₁ h₁, ih₂ h₂]
  | jump hat _ ih => exact ih ((leads_jump_iff hat).1 h')
  | stop hat => exact ((leads_stop_iff hat).1 h').symm

/-- An address that is entered from another without a character. -/
def Entered (program : Array Instruction) (later address : Nat) : Prop :=
  match program[address]? with
  | some (.fork first second) => later = first ∨ later = second
  | some (.jump target) => later = target
  | _ => False

/-- From an address with a list of matches no way leads on forever without a character. -/
theorem Leads.acc (h : Leads program rest address ends) : Acc (Entered program) address := by
  induction h with
  | takes hat _ _ _ => exact ⟨_, fun later hlater => by simp [Entered, hat] at hlater⟩
  | refuses hat _ => exact ⟨_, fun later hlater => by simp [Entered, hat] at hlater⟩
  | fork hat _ _ ih₁ ih₂ =>
    refine ⟨_, fun later hlater => ?_⟩
    simp only [Entered, hat] at hlater
    rcases hlater with rfl | rfl
    · exact ih₁
    · exact ih₂
  | jump hat _ ih =>
    refine ⟨_, fun later hlater => ?_⟩
    simp only [Entered, hat] at hlater
    subst hlater
    exact ih
  | stop hat => exact ⟨_, fun later hlater => by simp [Entered, hat] at hlater⟩

/-- Such an address is not entered from itself again. -/
theorem Leads.not_entered_self (h : Leads program rest address ends) :
    ¬ Relation.TransGen (Entered program) address address := by
  have hacc := h.acc.transGen
  -- The induction is on the ways on from the address: a cycle would be a way without an end.
  induction hacc with
  | intro address _ ih => exact fun hself => ih address hself h hself

end Leads

open Classical in
/-- The matches of an address, where there is a list of them. -/
noncomputable def endsAt (program : Array Instruction) (rest : List Char) (address : Nat) :
    List (List Char) :=
  if h : ∃ ends, Leads program rest address ends then h.choose else []

theorem Leads.endsAt_eq {program : Array Instruction} {rest : List Char} {address : Nat}
    {ends : List (List Char)} (h : Leads program rest address ends) :
    endsAt program rest address = ends := by
  have hex : ∃ ends, Leads program rest address ends := ⟨ends, h⟩
  unfold endsAt
  rw [dif_pos hex]
  exact hex.choose_spec.deterministic h

/-! ## §2. Exploring -/

/-- The matches of threads, the first thread's before the others', each with the place where its
thread started. -/
noncomputable def results (program : Array Instruction) (rest : List Char) (threads : List Thread) :
    List (Nat × List Char) :=
  threads.flatMap fun thread => (endsAt program rest thread.address).map (thread.start, ·)

/-- The matches of what exploring has come to: those of the threads that wait, and after them the
one that has stopped. -/
noncomputable def Explored.results (program : Array Instruction) (rest : List Char)
    (explored : Explored) : List (Nat × List Char) :=
  Regex.results program rest explored.waiting ++ (explored.stopped.map (·, rest)).toList

/-- An address that was visited at the place has no matches, or a thread that waits has some, or
else the matches are still ahead, in front of everything that is not entered from this address. -/
def Covered (program : Array Instruction) (rest : List Char) (place : Nat) (seen : Array Nat)
    (waiting todo : List Thread) : Prop :=
  ∀ address, seen[address]? = some place →
    (∃ thread ∈ waiting, endsAt program rest thread.address ≠ []) ∨
    ∃ ahead behind, todo = ahead ++ behind ∧
      (∀ thread ∈ ahead, Relation.TransGen (Entered program) thread.address address) ∧
      (endsAt program rest address ≠ [] →
        ∃ thread ∈ ahead, endsAt program rest thread.address ≠ [])

/-- The number of addresses that were not visited at the place. -/
def unvisited (place : Nat) (seen : Array Nat) : Nat :=
  seen.countP (· ≠ place)

section Explore

variable {program : Array Instruction} {rest : List Char} {place : Nat} {seen : Array Nat}
  {waiting waiting' todo next : List Thread} {thread : Thread}

@[simp] theorem results_nil : results program rest [] = [] :=
  rfl

@[simp] theorem results_cons : results program rest (thread :: todo) =
    (endsAt program rest thread.address).map (thread.start, ·) ++ results program rest todo :=
  rfl

@[simp] theorem results_append : results program rest (waiting ++ todo) =
    results program rest waiting ++ results program rest todo :=
  List.flatMap_append

theorem results_ne_nil_iff : results program rest waiting ≠ [] ↔
    ∃ thread ∈ waiting, endsAt program rest thread.address ≠ [] := by
  simp [results, List.flatMap_eq_nil_iff]

/-- Visiting the next address puts other threads in its place, and has all of its matches in them
or in threads that wait. -/
theorem Covered.visit (h : Covered program rest place seen waiting (thread :: todo))
    (hwaiting : ∀ other ∈ waiting, other ∈ waiting')
    (hnext : ∀ other ∈ next, Entered program other.address thread.address)
    (hends : endsAt program rest thread.address ≠ [] →
      ∃ other ∈ waiting' ++ next, endsAt program rest other.address ≠ []) :
    Covered program rest place (seen.setIfInBounds thread.address place) waiting'
      (next ++ todo) := by
  intro address hseen
  by_cases hcovered : ∃ other ∈ waiting', endsAt program rest other.address ≠ []
  · exact .inl hcovered
  -- No thread that waits has a match, so all of them are ahead.
  have hahead (hne : endsAt program rest thread.address ≠ []) :
      ∃ other ∈ next, endsAt program rest other.address ≠ [] := by
    obtain ⟨other, hmem, hother⟩ := hends hne
    rcases List.mem_append.1 hmem with hmem | hmem
    · exact absurd ⟨other, hmem, hother⟩ hcovered
    · exact ⟨other, hmem, hother⟩
  refine .inr ?_
  by_cases haddress : address = thread.address
  · subst haddress
    exact ⟨next, todo, rfl, fun other hmem => .single (hnext other hmem), hahead⟩
  · have hbefore : seen[address]? = some place := by
      rw [Array.getElem?_setIfInBounds_ne (Ne.symm haddress)] at hseen
      exact hseen
    rcases h address hbefore with ⟨other, hmem, hother⟩ | ⟨ahead, behind, htodo, hafter, hsome⟩
    · exact absurd ⟨other, hwaiting other hmem, hother⟩ hcovered
    · -- What lies ahead of the other address begins with the thread, or there is nothing there.
      cases ahead with
      | nil =>
        exact ⟨[], next ++ todo, rfl, by simp, fun hne => absurd (hsome hne) (by simp)⟩
      | cons first ahead =>
        obtain ⟨rfl, rfl⟩ := List.cons.inj htodo
        refine ⟨next ++ ahead, behind, by simp, fun other hmem => ?_, fun hne => ?_⟩
        · rcases List.mem_append.1 hmem with hmem | hmem
          · exact .head (hnext other hmem) (hafter thread List.mem_cons_self)
          · exact hafter other (List.mem_cons_of_mem _ hmem)
        · obtain ⟨other, hmem, hother⟩ := hsome hne
          rcases List.mem_cons.1 hmem with rfl | hmem
          · obtain ⟨other, hmem, hother⟩ := hahead hother
            exact ⟨other, List.mem_append_left _ hmem, hother⟩
          · exact ⟨other, List.mem_append_right _ hmem, hother⟩

/-- A thread at an address that was visited adds no match that no thread that waits has. -/
theorem Covered.ends_of_seen (h : Covered program rest place seen waiting (thread :: todo))
    {ends : List (List Char)} (hleads : Leads program rest thread.address ends)
    (hseen : seen[thread.address]? = some place)
    (hne : endsAt program rest thread.address ≠ []) :
    ∃ other ∈ waiting, endsAt program rest other.address ≠ [] := by
  rcases h thread.address hseen with hcovered | ⟨ahead, behind, htodo, hafter, hsome⟩
  · exact hcovered
  · cases ahead with
    | nil => exact absurd (hsome hne) (by simp)
    | cons first ahead =>
      -- The address would have been entered from itself.
      obtain ⟨rfl, _⟩ := List.cons.inj htodo
      exact absurd (hafter thread List.mem_cons_self) hleads.not_entered_self

/-- A thread at an address that was visited can be left out. -/
theorem Covered.skip (h : Covered program rest place seen waiting (thread :: todo))
    {ends : List (List Char)} (hleads : Leads program rest thread.address ends)
    (hseen : seen[thread.address]? = some place) :
    Covered program rest place seen waiting todo := by
  intro address haddress
  by_cases hcovered : ∃ other ∈ waiting, endsAt program rest other.address ≠ []
  · exact .inl hcovered
  rcases h address haddress with hcovered' | ⟨ahead, behind, htodo, hafter, hsome⟩
  · exact .inl hcovered'
  · refine .inr ?_
    cases ahead with
    | nil => exact ⟨[], todo, rfl, by simp, fun hne => absurd (hsome hne) (by simp)⟩
    | cons first ahead =>
      obtain ⟨rfl, rfl⟩ := List.cons.inj htodo
      refine ⟨ahead, behind, rfl, fun other hmem => hafter other (List.mem_cons_of_mem _ hmem),
        fun hne => ?_⟩
      obtain ⟨other, hmem, hother⟩ := hsome hne
      rcases List.mem_cons.1 hmem with rfl | hmem
      · exact absurd (h.ends_of_seen hleads hseen hother) hcovered
      · exact ⟨other, hmem, hother⟩

/-- A visit leaves one address less unvisited. -/
theorem unvisited_visit {address : Nat} (hlt : address < seen.size)
    (hseen : seen[address]? ≠ some place) :
    unvisited place (seen.setIfInBounds address place) + 1 = unvisited place seen := by
  have hget : seen[address] ≠ place := by
    intro heq
    exact hseen (by rw [Array.getElem?_eq_getElem hlt, heq])
  have hpos : 0 < unvisited place seen :=
    Array.countP_pos_iff.2 ⟨seen[address], Array.getElem_mem hlt, by simpa using hget⟩
  have hset : seen.setIfInBounds address place = seen.set address place hlt := by
    simp [Array.setIfInBounds, hlt]
  unfold unvisited at hpos ⊢
  rw [hset, Array.countP_set hlt, if_pos (by simpa using hget), if_neg (by simp)]
  omega

/-- What exploring keeps, from the state before to what it comes to. -/
structure ExploresTo (program : Array Instruction) (rest : List Char) (place : Nat)
    (seen : Array Nat) (waiting todo : List Thread) (explored : Explored) : Prop where
  head : (explored.results program rest).head? =
    (results program rest (waiting.reverse ++ todo)).head?
  size : explored.seen.size = seen.size
  marks : ∀ mark ∈ explored.seen, mark ∈ seen ∨ mark = place
  waits : ∀ thread ∈ explored.waiting, thread ∈ waiting ∨
    ∃ chars ends, program[thread.address]? = some (.take chars) ∧
      Leads program rest thread.address ends

/-- What is kept after a visit is kept from before it. -/
theorem ExploresTo.visit {explored : Explored}
    (h : ExploresTo program rest place (seen.setIfInBounds thread.address place) waiting'
      (next ++ todo) explored)
    (hresults : results program rest (waiting'.reverse ++ next) =
      results program rest (waiting.reverse ++ [thread]))
    (hwaits : ∀ other ∈ waiting', other ∈ waiting ∨
      ∃ chars ends, program[other.address]? = some (.take chars) ∧
        Leads program rest other.address ends) :
    ExploresTo program rest place seen waiting (thread :: todo) explored where
  head := by
    rw [h.head]
    simp only [results_append, results_cons, results_nil, List.append_nil] at hresults ⊢
    rw [← List.append_assoc, hresults, List.append_assoc]
  size := by rw [h.size, Array.size_setIfInBounds]
  marks mark hmem := by
    rcases h.marks mark hmem with hmem | rfl
    · exact Array.mem_or_eq_of_mem_setIfInBounds hmem
    · exact .inr rfl
  waits other hmem := by
    rcases h.waits other hmem with hmem | htake
    · exact hwaits other hmem
    · exact .inr htake

/-- A thread that waits for a character is left to wait. -/
theorem Covered.take (h : Covered program rest place seen waiting (thread :: todo)) :
    Covered program rest place (seen.setIfInBounds thread.address place) (thread :: waiting)
      todo :=
  @Covered.visit _ _ _ _ _ (thread :: waiting) todo [] thread h
    (fun other hmem => List.mem_cons_of_mem _ hmem) (by simp) (fun hne => ⟨thread, by simp, hne⟩)

theorem ExploresTo.take {explored : Explored} {chars : CharSet} {ends : List (List Char)}
    (h : ExploresTo program rest place (seen.setIfInBounds thread.address place)
      (thread :: waiting) todo explored)
    (hat : program[thread.address]? = some (.take chars))
    (hends : Leads program rest thread.address ends) :
    ExploresTo program rest place seen waiting (thread :: todo) explored := by
  apply @ExploresTo.visit _ _ _ _ waiting (thread :: waiting) todo [] thread explored h
  · simp
  · intro other hmem
    rcases List.mem_cons.1 hmem with rfl | hmem
    · exact .inr ⟨chars, ends, hat, hends⟩
    · exact .inl hmem

/-- Threads that have the matches of a thread stand for it. -/
theorem Covered.enter (h : Covered program rest place seen waiting (thread :: todo))
    (hentered : ∀ other ∈ next, Entered program other.address thread.address)
    (hresults : results program rest next = results program rest [thread]) :
    Covered program rest place (seen.setIfInBounds thread.address place) waiting
      (next ++ todo) := by
  apply h.visit (fun other hmem => hmem) hentered
  intro hne
  have hsome : results program rest [thread] ≠ [] :=
    results_ne_nil_iff.2 ⟨thread, by simp, hne⟩
  rw [← hresults] at hsome
  obtain ⟨other, hmem, hother⟩ := results_ne_nil_iff.1 hsome
  exact ⟨other, List.mem_append_right _ hmem, hother⟩

/-- Exploring keeps the first match, if all threads have lists of matches. -/
theorem explore_spec {before after : Option Char} {steps : Nat}
    (hsize : seen.size = program.size)
    (hleads : ∀ thread ∈ todo, ∃ ends, Leads program rest thread.address ends)
    (hcovered : Covered program rest place seen waiting todo)
    (hsteps : todo.length + 2 * unvisited place seen < steps) :
    ExploresTo program rest place seen waiting todo
      (explore program place before after steps seen waiting todo) := by
  -- A visit adds two threads at most and is the last one of its address, so the steps suffice.
  induction steps generalizing seen waiting todo with
  | zero => omega
  | succ steps ih =>
  cases todo with
  | nil =>
    refine ⟨?_, rfl, fun mark hmem => .inl hmem, fun thread hmem => ?_⟩
    · simp [explore, Explored.results]
    · exact .inl (List.mem_reverse.1 hmem)
  | cons thread todo =>
    obtain ⟨ends, hends⟩ := hleads thread List.mem_cons_self
    have hleads' : ∀ thread ∈ todo, ∃ ends, Leads program rest thread.address ends :=
      fun other hmem => hleads other (List.mem_cons_of_mem _ hmem)
    rw [List.length_cons] at hsteps
    by_cases hseen : seen[thread.address]? = some place
    · -- The thread is dropped. What it could add is there already.
      rw [explore, if_pos hseen]
      have hskip := hcovered.skip hends hseen
      obtain ⟨hhead, hsize', hmarks, hwaits⟩ := ih hsize hleads' hskip (by omega)
      refine ⟨hhead.trans ?_, hsize', hmarks, hwaits⟩
      by_cases hne : endsAt program rest thread.address = []
      · simp [hne]
      · obtain ⟨other, hmem, hother⟩ := hcovered.ends_of_seen hends hseen hne
        have hresults : results program rest waiting.reverse ≠ [] :=
          results_ne_nil_iff.2 ⟨other, List.mem_reverse.2 hmem, hother⟩
        simp only [results_append, List.head?_append, List.head?_eq_some_head hresults,
          Option.some_or]
    · rw [explore, if_neg hseen]
      have hsize' : (seen.setIfInBounds thread.address place).size = program.size := by
        rw [Array.size_setIfInBounds, hsize]
      -- A visited address is not visited again, so each visit takes one from those that are left.
      have hfewer {instruction : Instruction} (hat : program[thread.address]? = some instruction) :
          unvisited place (seen.setIfInBounds thread.address place) + 1 =
            unvisited place seen := by
        obtain ⟨hlt, _⟩ := Array.getElem?_eq_some_iff.1 hat
        exact unvisited_visit (by omega) hseen
      have htake {chars : CharSet} (hat : program[thread.address]? = some (.take chars)) :
          ExploresTo program rest place seen waiting (thread :: todo)
            (explore program place before after steps
              (seen.setIfInBounds thread.address place) (thread :: waiting) todo) := by
        have hfewer := hfewer hat
        exact (ih hsize' hleads' hcovered.take (by omega)).take hat hends
      have henter {instruction : Instruction} (next : List Thread)
          (hat : program[thread.address]? = some instruction) (hlength : next.length ≤ 2)
          (hentered : ∀ other ∈ next, Entered program other.address thread.address)
          (hnext : ∀ other ∈ next, ∃ ends, Leads program rest other.address ends)
          (hresults : results program rest next = results program rest [thread]) :
          ExploresTo program rest place seen waiting (thread :: todo)
            (explore program place before after steps
              (seen.setIfInBounds thread.address place) waiting (next ++ todo)) := by
        have hfewer := hfewer hat
        have hlater := ih hsize' (List.forall_mem_append.2 ⟨hnext, hleads'⟩)
          (hcovered.enter hentered hresults) (by rw [List.length_append]; omega)
        apply hlater.visit
        · rw [results_append, results_append, hresults]
        · exact fun other hmem => .inl hmem
      cases hends with
      | takes hat hc hrest =>
        simp only [hat]
        exact htake hat
      | refuses hat hc =>
        simp only [hat]
        exact htake hat
      | @fork _ _ first second _ _ hat h₁ h₂ =>
        simp only [hat]
        apply henter [thread.at first, thread.at second] hat (by simp)
        · simp [Entered, hat, Thread.at]
        · exact List.forall_mem_cons.2 ⟨⟨_, h₁⟩, List.forall_mem_singleton.2 ⟨_, h₂⟩⟩
        · simp [(Leads.fork hat h₁ h₂).endsAt_eq, h₁.endsAt_eq, h₂.endsAt_eq, Thread.at]
      | @jump _ _ target _ hat h₁ =>
        simp only [hat]
        apply henter [thread.at target] hat (by simp)
        · simp [Entered, hat, Thread.at]
        · exact List.forall_mem_singleton.2 ⟨_, h₁⟩
        · simp [(Leads.jump hat h₁).endsAt_eq, h₁.endsAt_eq, Thread.at]
      | stop hat =>
        simp only [hat]
        refine ⟨?_, by simp, fun mark hmem => ?_, fun other hmem => ?_⟩
        · simp [Explored.results, (Leads.stop hat).endsAt_eq]
        · exact Array.mem_or_eq_of_mem_setIfInBounds hmem
        · exact .inl (List.mem_reverse.1 hmem)

/-- Exploring a new place keeps the first match of the threads. -/
theorem exploreAll_spec (before after : Option Char) {threads : List Thread}
    (hsize : seen.size = program.size) (hmarks : ∀ mark ∈ seen, mark ≠ place)
    (hleads : ∀ thread ∈ threads, ∃ ends, Leads program rest thread.address ends) :
    ExploresTo program rest place seen [] threads
      (exploreAll program place before after seen threads) := by
  refine explore_spec hsize hleads (fun address hseen => ?_) ?_
  · exact absurd rfl (hmarks place (Array.mem_of_getElem? hseen))
  · have hle : unvisited place seen ≤ seen.size := Array.countP_le_size
    omega

end Explore

/-! ## §3. Running -/

section Run

variable {program : Array Instruction} {rest : List Char} {c : Char} {before : Option Char}
  {address place : Nat} {ends : List (List Char)} {best : Option (Nat × Nat)} {seen : Array Nat}
  {threads : List Thread}

/-- What is left behind a match is no longer than what was there. -/
theorem Leads.length_le (h : Leads program rest address ends) {behind : List Char}
    (hmem : behind ∈ ends) : behind.length ≤ rest.length := by
  induction h with
  | takes _ _ _ ih =>
    have hle := ih hmem
    rw [List.length_cons]
    omega
  | refuses _ _ => simp at hmem
  | fork _ _ _ ih₁ ih₂ =>
    rcases List.mem_append.1 hmem with hmem | hmem
    · exact ih₁ hmem
    · exact ih₂ hmem
  | jump _ _ ih => exact ih hmem
  | stop _ =>
    obtain rfl := List.mem_singleton.1 hmem
    exact Nat.le_refl _

/-- Threads that wait for a character have their matches behind it. -/
theorem results_advance (hwaits : ∀ thread ∈ threads, ∃ chars ends,
      program[thread.address]? = some (.take chars) ∧
        Leads program (c :: rest) thread.address ends) :
    results program rest (advance program c threads) = results program (c :: rest) threads ∧
      ∀ thread ∈ advance program c threads, ∃ ends, Leads program rest thread.address ends := by
  induction threads with
  | nil => simp [advance]
  | cons thread threads ih =>
    obtain ⟨hresults, hleads⟩ := ih fun other hmem => hwaits other (List.mem_cons_of_mem _ hmem)
    obtain ⟨chars, ends, hat, hends⟩ := hwaits thread List.mem_cons_self
    unfold advance at hresults hleads ⊢
    rw [results_cons, hends.endsAt_eq]
    rw [leads_take_cons_iff hat] at hends
    by_cases hc : chars.contains c = true
    · rw [if_pos hc] at hends
      have htake : thread.take? program c = some (thread.at (thread.address + 1)) := by
        simp [Thread.take?, hat, hc]
      rw [List.filterMap_cons_some htake, results_cons, hresults]
      refine ⟨?_, fun other hmem => ?_⟩
      · simp [Thread.at, hends.endsAt_eq]
      · rcases List.mem_cons.1 hmem with rfl | hmem
        · exact ⟨ends, hends⟩
        · exact hleads other hmem
    · rw [if_neg hc] at hends
      have htake : thread.take? program c = none := by
        simp [Thread.take?, hat, hc]
      rw [List.filterMap_cons_none htake, hends]
      exact ⟨hresults, hleads⟩

/-- The match that a result is, in numbers of characters, where `left` characters are left at the
place. -/
def toMatch (place left : Nat) (result : Nat × List Char) : Nat × Nat :=
  (result.1, place + (left - result.2.length))

/-- A match behind a character ends at one place, counted from either side of it. -/
theorem toMatch_cons
    (hleads : ∀ thread ∈ threads, ∃ ends, Leads program rest thread.address ends) :
    (results program rest threads).head?.map (toMatch (place + 1) rest.length) =
      (results program rest threads).head?.map (toMatch place (c :: rest).length) := by
  apply Option.map_congr
  intro result hmem
  obtain ⟨thread, hthread, hresult⟩ := List.mem_flatMap.1 (List.mem_of_mem_head? hmem)
  obtain ⟨behind, hbehind, rfl⟩ := List.mem_map.1 hresult
  obtain ⟨ends, hends⟩ := hleads thread hthread
  rw [hends.endsAt_eq] at hbehind
  have hle := hends.length_le hbehind
  simp only [toMatch, List.length_cons, Prod.mk.injEq, true_and]
  omega

/-- Running threads from a place on finds the first of their matches, or what was found before. -/
theorem run_eq (hsize : seen.size = program.size) (hmarks : ∀ mark ∈ seen, mark ≤ place)
    (hleads : ∀ thread ∈ threads, ∃ ends, Leads program rest thread.address ends) :
    run program false before place best seen threads rest =
      ((results program rest threads).head?.map (toMatch place rest.length)).or best := by
  induction rest generalizing before place best seen threads with
  | nil =>
    have hnew (mark : Nat) (hmem : mark ∈ seen) : mark ≠ place + 1 :=
      Nat.ne_of_lt (Nat.lt_succ_of_le (hmarks mark hmem))
    have hexplored := exploreAll_spec before none hsize hnew hleads
    simp only [run, arrive, Bool.false_and, Bool.false_eq_true, if_false]
    generalize exploreAll program (place + 1) before none seen threads = explored at hexplored
    obtain ⟨hhead, _, _, hwaits⟩ := hexplored
    -- No thread that waits for a character gets one.
    have hnone : results program [] explored.waiting = [] := by
      apply List.flatMap_eq_nil_iff.2
      intro thread hmem
      obtain ⟨chars, ends, hat, hends⟩ := (hwaits thread hmem).resolve_left (by simp)
      simp [hends.endsAt_eq, (leads_take_nil_iff hat).1 hends]
    rw [Explored.results, hnone, List.reverse_nil, List.nil_append, List.nil_append] at hhead
    rw [← hhead]
    cases hstopped : explored.stopped <;> simp [Explored.found, hstopped, toMatch]
  | cons c rest ih =>
    have hnew (mark : Nat) (hmem : mark ∈ seen) : mark ≠ place + 1 :=
      Nat.ne_of_lt (Nat.lt_succ_of_le (hmarks mark hmem))
    have hexplored := exploreAll_spec before (some c) hsize hnew hleads
    simp only [run, arrive, Bool.false_and, Bool.false_eq_true, if_false]
    generalize exploreAll program (place + 1) before (some c) seen threads = explored at hexplored
    obtain ⟨hhead, hsize', hmarks', hwaits⟩ := hexplored
    -- The threads that wait take the character, and their matches are those behind it.
    obtain ⟨hresults, hnext⟩ := results_advance fun thread hmem =>
      (hwaits thread hmem).resolve_left (by simp)
    have hfirst : ((results program (c :: rest) threads).head?.map
          (toMatch place (c :: rest).length)).or best =
        ((results program rest (advance program c explored.waiting)).head?.map
          (toMatch (place + 1) rest.length)).or (explored.found place best) := by
      rw [List.reverse_nil, List.nil_append, Explored.results, List.head?_append, ← hresults]
        at hhead
      rw [← hhead, Option.map_or, Option.or_assoc, ← toMatch_cons hnext]
      cases hstopped : explored.stopped <;> simp [Explored.found, hstopped, toMatch]
    rw [hfirst]
    cases hadvance : advance program c explored.waiting with
    | nil => simp
    | cons thread more =>
      rw [hadvance] at hnext
      refine ih (hsize'.trans hsize) (fun mark hmem => ?_) hnext
      rcases hmarks' mark hmem with hmem | rfl
      · exact Nat.le_succ_of_le (hmarks mark hmem)
      · exact Nat.le_refl _

/-- The matcher finds the first match of a program. -/
theorem matchAt_eq_of_leads (h : Leads program rest 0 ends) :
    matchAt program before rest = ends.head?.map fun behind => rest.length - behind.length := by
  unfold matchAt
  rw [run_eq (by simp [unexplored]) (by simp [unexplored]) (by simpa using ⟨ends, h⟩)]
  simp [h.endsAt_eq, toMatch, Function.comp_def]

end Run

end Backtrack.Regex
