import Backtrack.Proofs.Regex.Machine

/-! # The anchored match and the search

    A search starts a new thread at every place and an anchored match only at
    the first. The later threads come behind all others and stop only where
    none of those does, so up to them the search runs as the anchored match
    does: it finds a match at the first place exactly if the anchored match
    finds it. This holds of every program, with assertions and without.

    * `explore_append`: threads behind others do not change what those come
      to.
    * `run_agrees`: what a whole run of each finds.
    * `matchAt_eq_some_iff`: the anchored match in terms of the search. -/

namespace Backtrack.Regex

/-! ## §1. One thread at a place -/

/-- What a thread comes to that is explored at a place for the first time: threads that wait for a
character, and threads to be explored in its place. It comes to nothing where it stops. -/
def Thread.visit (program : Array Instruction) (before after : Option Char) (thread : Thread) :
    Option (List Thread × List Thread) :=
  match program[thread.address]? with
  | some (.take _) => some ([thread], [])
  | some (.check condition) =>
    some ([], if condition.holds before after then [thread.at (thread.address + 1)] else [])
  | some (.fork first second) => some ([], [thread.at first, thread.at second])
  | some (.jump target) => some ([], [thread.at target])
  | some .stop => none
  | none => some ([], [])

section Visit

variable {program : Array Instruction} {before after : Option Char} {place steps : Nat}
  {seen : Array Nat} {waiting waits next todo : List Thread} {thread : Thread}

/-- Exploring goes on behind a visit. -/
theorem explore_of_visit (hseen : seen[thread.address]? ≠ some place)
    (hvisit : thread.visit program before after = some (waits, next)) :
    explore program place before after (steps + 1) seen waiting (thread :: todo) =
      explore program place before after steps (seen.setIfInBounds thread.address place)
        (waits ++ waiting) (next ++ todo) := by
  rw [explore, if_neg hseen]
  unfold Thread.visit at hvisit
  cases hat : program[thread.address]? with
  | none =>
    rw [hat] at hvisit
    cases hvisit
    rfl
  | some instruction =>
    rw [hat] at hvisit
    cases instruction with
    | take chars =>
      cases hvisit
      rfl
    | check condition =>
      cases hvisit
      have happend :
          (if condition.holds before after then [thread.at (thread.address + 1)] else []) ++ todo =
            if condition.holds before after then thread.at (thread.address + 1) :: todo
            else todo := by
        split <;> rfl
      rw [happend]
      rfl
    | fork first second =>
      cases hvisit
      rfl
    | jump target =>
      cases hvisit
      rfl
    | stop => cases hvisit

/-- Exploring ends with a thread that stops. -/
theorem explore_of_stop (hseen : seen[thread.address]? ≠ some place)
    (hvisit : thread.visit program before after = none) :
    explore program place before after (steps + 1) seen waiting (thread :: todo) =
      ⟨waiting.reverse, some thread.start, seen.setIfInBounds thread.address place⟩ := by
  rw [explore, if_neg hseen]
  unfold Thread.visit at hvisit
  split at hvisit <;> simp_all

/-- The threads of a visit started where the visited thread did. -/
theorem Thread.starts_of_visit (hvisit : thread.visit program before after = some (waits, next)) :
    (waits ++ next).map Thread.start ⊆ [thread.start] := by
  unfold Thread.visit at hvisit
  split at hvisit <;> cases hvisit
  · simp
  · split <;> simp [Thread.at]
  · simp [Thread.at]
  · simp [Thread.at]
  · simp

/-- A visit takes more from the addresses that are left than it adds threads. -/
theorem Thread.length_of_visit (hvisit : thread.visit program before after = some (waits, next))
    (hsize : seen.size = program.size) (hseen : seen[thread.address]? ≠ some place) :
    next.length + 2 * unvisited place (seen.setIfInBounds thread.address place) ≤
      2 * unvisited place seen := by
  by_cases hlt : thread.address < program.size
  · have hfewer := unvisited_visit (by omega) hseen
    have hnext : next.length ≤ 2 := by
      unfold Thread.visit at hvisit
      split at hvisit <;> cases hvisit
      · simp
      · split <;> simp
      · simp
      · simp
      · simp
    omega
  · -- Where the program has no address there is nothing to mark and nothing to go on with.
    have hnone : program[thread.address]? = none := Array.getElem?_eq_none (by omega)
    have hsame : seen.setIfInBounds thread.address place = seen :=
      Array.setIfInBounds_eq_of_size_le (by omega)
    unfold Thread.visit at hvisit
    rw [hnone] at hvisit
    cases hvisit
    rw [hsame]
    simp

/-! ## §2. Exploring more threads -/

/-- What exploring comes to, as far as it can be told from the threads that there were: the marks
are those of before and of this place, and what waits and what stopped started where one of the
threads did. -/
structure Explored.Stems (place : Nat) (seen : Array Nat) (waiting todo : List Thread)
    (explored : Explored) : Prop where
  size : explored.seen.size = seen.size
  marks : ∀ mark ∈ explored.seen, mark ∈ seen ∨ mark = place
  waiting : ∃ more, explored.waiting = waiting.reverse ++ more ∧
    more.map Thread.start ⊆ todo.map Thread.start
  stopped : ∀ start ∈ explored.stopped, start ∈ todo.map Thread.start

/-- What comes of other threads that started in the same places comes of the threads as well. -/
theorem Explored.Stems.of_visit {explored : Explored}
    (h : explored.Stems place (seen.setIfInBounds thread.address place) (waits ++ waiting)
      (next ++ todo))
    (hstarts : (waits ++ next).map Thread.start ⊆ [thread.start]) :
    explored.Stems place seen waiting (thread :: todo) := by
  obtain ⟨hsize, hmarks, ⟨more, hwaiting, hmore⟩, hstopped⟩ := h
  rw [List.map_append, List.append_subset] at hstarts
  have htodo : (next ++ todo).map Thread.start ⊆ (thread :: todo).map Thread.start := by
    rw [List.map_append, List.map_cons, List.append_subset]
    exact ⟨List.Subset.trans hstarts.2 (by simp), List.subset_cons_self _ _⟩
  refine ⟨?_, fun mark hmem => ?_, ⟨waits.reverse ++ more, ?_, ?_⟩, fun start h => ?_⟩
  · rw [hsize, Array.size_setIfInBounds]
  · rcases hmarks mark hmem with hmem | rfl
    · exact Array.mem_or_eq_of_mem_setIfInBounds hmem
    · exact .inr rfl
  · rw [hwaiting, List.reverse_append, List.append_assoc]
  · rw [List.map_append, List.append_subset, List.map_reverse]
    refine ⟨fun start hmem => ?_, List.Subset.trans hmore htodo⟩
    have hstart := hstarts.1 (List.mem_reverse.1 hmem)
    simpa using .inl (by simpa using hstart)
  · exact htodo (hstopped start h)

theorem explore_stems (program : Array Instruction) (before after : Option Char) (place steps : Nat)
    (seen : Array Nat) (waiting todo : List Thread) :
    (explore program place before after steps seen waiting todo).Stems place seen waiting todo := by
  induction steps generalizing seen waiting todo with
  | zero => exact ⟨rfl, fun _ hmem => .inl hmem, ⟨[], by simp [explore]⟩, by simp [explore]⟩
  | succ steps ih =>
  cases todo with
  | nil => exact ⟨rfl, fun _ hmem => .inl hmem, ⟨[], by simp [explore]⟩, by simp [explore]⟩
  | cons thread todo =>
    by_cases hseen : seen[thread.address]? = some place
    · rw [explore, if_pos hseen]
      obtain ⟨hsize, hmarks, ⟨more, hwaiting, hmore⟩, hstopped⟩ := ih seen waiting todo
      have htodo : todo.map Thread.start ⊆ (thread :: todo).map Thread.start :=
        List.subset_cons_self _ _
      exact ⟨hsize, hmarks, ⟨more, hwaiting, List.Subset.trans hmore htodo⟩,
        fun start h => htodo (hstopped start h)⟩
    cases hvisit : thread.visit program before after with
    | none =>
      rw [explore_of_stop hseen hvisit]
      refine ⟨by simp, fun mark hmem => ?_, ⟨[], by simp⟩, by simp⟩
      exact Array.mem_or_eq_of_mem_setIfInBounds hmem
    | some visited =>
      rw [explore_of_visit hseen hvisit]
      exact (ih _ _ _).of_visit (Thread.starts_of_visit hvisit)

/-- The same addresses were explored at the place. -/
def SameMarks (place : Nat) (seen seen' : Array Nat) : Prop :=
  seen.size = seen'.size ∧
    ∀ address : Nat, seen[address]? = some place ↔ seen'[address]? = some place

theorem SameMarks.visit {seen' : Array Nat} (h : SameMarks place seen seen') (address : Nat) :
    SameMarks place (seen.setIfInBounds address place) (seen'.setIfInBounds address place) := by
  refine ⟨by simpa using h.1, fun other => ?_⟩
  by_cases hother : address = other
  · subst hother
    simp only [Array.getElem?_setIfInBounds_self, h.1]
  · rw [Array.getElem?_setIfInBounds_ne hother, Array.getElem?_setIfInBounds_ne hother]
    exact h.2 other

/-- **Threads behind others do not change what those come to.** Either one of the others stops, and
nothing comes of the threads behind them, or the threads behind come to something of their own. -/
theorem explore_append {seen' : Array Nat} {steps' : Nat} {others : List Thread}
    (hsize : seen.size = program.size) (hsame : SameMarks place seen seen')
    (hsteps : todo.length + 2 * unvisited place seen < steps)
    (hsteps' : (todo ++ others).length + 2 * unvisited place seen' < steps') :
    let explored := explore program place before after steps seen waiting todo
    let explored' := explore program place before after steps' seen' waiting (todo ++ others)
    (∃ start ∈ explored.stopped, explored'.stopped = some start ∧
      explored'.waiting = explored.waiting) ∨
    explored.stopped = none ∧ (∀ start ∈ explored'.stopped, start ∈ others.map Thread.start) ∧
      ∃ more, explored'.waiting = explored.waiting ++ more ∧
        more.map Thread.start ⊆ others.map Thread.start := by
  -- On the steps of the match. Neither side runs out of steps, so both visit the same threads
  -- until one stops or only the others are left.
  induction steps generalizing seen seen' waiting todo steps' with
  | zero => omega
  | succ steps ih =>
  cases steps' with
  | zero => omega
  | succ steps' =>
  cases todo with
  | nil =>
    -- Only the others are left, and the match explores nothing more.
    obtain ⟨_, _, hwaiting, hstopped⟩ :=
      explore_stems program before after place (steps' + 1) seen' waiting others
    exact .inr ⟨rfl, hstopped, hwaiting⟩
  | cons thread todo =>
    simp only [List.cons_append, List.length_cons] at hsteps hsteps' ⊢
    by_cases hseen : seen[thread.address]? = some place
    · rw [explore, if_pos hseen, explore, if_pos ((hsame.2 _).1 hseen)]
      exact ih hsize hsame (by omega) (by omega)
    have hseen' : seen'[thread.address]? ≠ some place := mt (hsame.2 _).2 hseen
    cases hvisit : thread.visit program before after with
    | none =>
      rw [explore_of_stop hseen hvisit, explore_of_stop hseen' hvisit]
      exact .inl ⟨thread.start, rfl, rfl, rfl⟩
    | some visited =>
      obtain ⟨waits, next⟩ := visited
      have hfewer := Thread.length_of_visit hvisit hsize hseen
      have hfewer' := Thread.length_of_visit hvisit (hsame.1.symm.trans hsize) hseen'
      rw [explore_of_visit hseen hvisit, explore_of_visit hseen' hvisit, ← List.append_assoc]
      refine ih (by simpa using hsize) (hsame.visit _) ?_ ?_
      · simp only [List.length_append] at hsteps ⊢
        omega
      · simp only [List.length_append] at hsteps' ⊢
        omega

end Visit

/-! ## §3. Running side by side -/

section Run

variable {program : Array Instruction} {restart : Bool} {before : Option Char} {place : Nat}
  {best best' : Option (Nat × Nat)} {seen seen' : Array Nat} {threads threads' : List Thread}
  {c : Char} {rest : List Char}

/-- The threads that are explored at a place. -/
def arrivals (restart : Bool) (place : Nat) (best : Option (Nat × Nat)) (threads : List Thread) :
    List Thread :=
  if restart && best.isNone then threads ++ [⟨place, 0⟩] else threads

theorem arrive_eq_exploreAll (after : Option Char) :
    arrive program restart before after place best seen threads =
      exploreAll program (place + 1) before after seen (arrivals restart place best threads) :=
  rfl

/-- Without threads and without a new one nothing more is found. -/
theorem run_of_arrivals_eq_nil (h : arrivals restart place best threads = []) :
    run program restart before place best seen threads rest = best := by
  obtain ⟨hrestart, rfl⟩ : (restart && best.isNone) = false ∧ threads = [] := by
    unfold arrivals at h
    split at h
    · simp at h
    · next hrestart => exact ⟨Bool.eq_false_iff.2 hrestart, h⟩
  have harrive (after : Option Char) :
      arrive program restart before after place best seen [] = ⟨[], none, seen⟩ := by
    rw [arrive_eq_exploreAll, h]
    rfl
  cases rest with
  | nil => simp [run, harrive, Explored.found]
  | cons c rest => simp [run, harrive, Explored.found, advance, hrestart]

/-- A run goes on behind every character, be there threads to go on with or not. -/
theorem run_cons : run program restart before place best seen threads (c :: rest) =
    run program restart (some c) (place + 1)
      ((arrive program restart before (some c) place best seen threads).found place best)
      (arrive program restart before (some c) place best seen threads).seen
      (advance program c (arrive program restart before (some c) place best seen threads).waiting)
      rest := by
  simp only [run]
  generalize arrive program restart before (some c) place best seen threads = explored
  cases hadvance : advance program c explored.waiting with
  | nil =>
    -- The run ends early here, where going on finds nothing more.
    simp only
    split
    · rfl
    · next hrestart =>
      refine (run_of_arrivals_eq_nil ?_).symm
      simp only [arrivals, hrestart, if_false, Bool.false_eq_true]
  | cons thread more => rfl

theorem starts_advance (c : Char) (threads : List Thread) :
    (advance program c threads).map Thread.start ⊆ threads.map Thread.start := by
  intro start hmem
  obtain ⟨next, hnext, rfl⟩ := List.mem_map.1 hmem
  obtain ⟨thread, hthread, htake⟩ := List.mem_filterMap.1 hnext
  have hstart : next.start = thread.start := by
    unfold Thread.take? at htake
    split at htake
    · split at htake
      · cases htake
        rfl
      · cases htake
    · cases htake
  exact List.mem_map.2 ⟨thread, hthread, hstart.symm⟩

/-- What the anchored match has found, the search has found, and otherwise nothing at the start. -/
def Agrees (found found' : Option (Nat × Nat)) : Prop :=
  (∀ m ∈ found, m.1 = 0 ∧ found' = some m) ∧ (found = none → ∀ m ∈ found', 0 < m.1)

/-- An anchored match, on the left, and a search, on the right, go side by side: behind the threads
of the match, all of which started at the first place, the search has some that started later, and
none when there is a match. -/
structure SideBySide (program : Array Instruction) (place : Nat) (best best' : Option (Nat × Nat))
    (seen seen' : Array Nat) (threads threads' : List Thread) : Prop where
  size : seen.size = program.size
  size' : seen'.size = program.size
  marks : ∀ mark ∈ seen, mark ≤ place
  marks' : ∀ mark ∈ seen', mark ≤ place
  agrees : Agrees best best'
  first : ∀ start ∈ threads.map Thread.start, start = 0
  later : ∃ others, arrivals true place best' threads' = threads ++ others ∧
    (∀ start ∈ others.map Thread.start, 0 < start) ∧ (best ≠ none → others = [])

/-- Exploring the same place on both sides: either a thread of the match stops, on both, or none
does, and what comes of the other threads started later and comes only while there is no match. -/
theorem SideBySide.arrive_cases
    (h : SideBySide program place best best' seen seen' threads threads')
    (before after : Option Char) {explored explored' : Explored}
    (hexplored : Regex.arrive program false before after place best seen threads = explored)
    (hexplored' : Regex.arrive program true before after place best' seen' threads' = explored') :
    (explored.stopped = some 0 ∧ explored'.stopped = some 0 ∧
      explored'.waiting = explored.waiting) ∨
    explored.stopped = none ∧ (∀ start ∈ explored'.stopped, best = none ∧ 0 < start) ∧
      ∃ more, explored'.waiting = explored.waiting ++ more ∧
        ∀ start ∈ more.map Thread.start, best = none ∧ 0 < start := by
  obtain ⟨others, harrivals, hlater, hnone⟩ := h.later
  have hothers : ∀ start ∈ others.map Thread.start, best = none ∧ 0 < start := by
    intro start hmem
    refine ⟨Decidable.byContradiction fun hbest => ?_, hlater start hmem⟩
    simp [hnone hbest] at hmem
  have hunvisited (seen : Array Nat) (hsize : seen.size = program.size) :
      unvisited (place + 1) seen ≤ program.size := hsize ▸ Array.countP_le_size
  -- No address was explored at the new place, on either side.
  have hfresh {seen : Array Nat} (hmarks : ∀ mark ∈ seen, mark ≤ place) (address : Nat) :
      seen[address]? ≠ some (place + 1) := fun hmark => by
    have hle := hmarks _ (Array.mem_of_getElem? hmark)
    omega
  have hsame : SameMarks (place + 1) seen seen' :=
    ⟨h.size.trans h.size'.symm, fun address =>
      iff_of_false (hfresh h.marks address) (hfresh h.marks' address)⟩
  have hcases := @explore_append program before after (place + 1)
    (threads.length + 2 * program.size + 1) seen [] threads seen'
    ((threads ++ others).length + 2 * program.size + 1) others h.size hsame
    (by have hle := hunvisited seen h.size; omega)
    (by have hle := hunvisited seen' h.size'; omega)
  have hstems := explore_stems program before after (place + 1)
    (threads.length + 2 * program.size + 1) seen [] threads
  have hthreads : arrivals false place best threads = threads := rfl
  rw [arrive_eq_exploreAll, hthreads, exploreAll] at hexplored
  rw [arrive_eq_exploreAll, harrivals, exploreAll] at hexplored'
  rw [hexplored] at hstems
  simp only [hexplored, hexplored'] at hcases
  rcases hcases with ⟨start, hstart, hstopped', hwaiting'⟩ | ⟨hstopped, hstopped', more, hmore⟩
  · obtain rfl : start = 0 := h.first start (hstems.stopped start hstart)
    exact .inl ⟨hstart, hstopped', hwaiting'⟩
  · obtain ⟨hwaiting', hstarts⟩ := hmore
    exact .inr ⟨hstopped, fun start hmem => hothers start (hstopped' start hmem), more, hwaiting',
      fun start hmem => hothers start (hstarts hmem)⟩

/-- Both sides still agree when a place has been explored, and what waits in the search waits in the
match, too, or started later. -/
theorem SideBySide.arrive (h : SideBySide program place best best' seen seen' threads threads')
    (before after : Option Char) {explored explored' : Explored}
    (hexplored : Regex.arrive program false before after place best seen threads = explored)
    (hexplored' : Regex.arrive program true before after place best' seen' threads' = explored') :
    Agrees (explored.found place best) (explored'.found place best') ∧
      ∃ more, explored'.waiting = explored.waiting ++ more ∧
        (∀ start ∈ more.map Thread.start, 0 < start) ∧
        (explored.found place best ≠ none → more = []) := by
  rcases h.arrive_cases before after hexplored hexplored' with
    ⟨hstopped, hstopped', hwaiting'⟩ | ⟨hstopped, hstopped', more, hwaiting', hmore⟩
  · have hfound : explored.found place best = some (0, place) := by
      simp [Explored.found, hstopped]
    have hfound' : explored'.found place best' = some (0, place) := by
      simp [Explored.found, hstopped']
    rw [hfound, hfound']
    exact ⟨⟨by simp, by simp⟩, [], by simp [hwaiting'], by simp, by simp⟩
  · have hfound : explored.found place best = best := by simp [Explored.found, hstopped]
    rw [hfound]
    refine ⟨⟨fun m hm => ?_, fun hbest m hm => ?_⟩, more, hwaiting',
      fun start hmem => (hmore start hmem).2, fun hbest => ?_⟩
    · -- There is a match, so no other thread stops.
      have hnone : explored'.stopped = none := by
        rw [Option.eq_none_iff_forall_not_mem]
        intro start hstart
        simp [(hstopped' start hstart).1] at hm
      simpa [Explored.found, hnone] using h.agrees.1 m hm
    · unfold Explored.found at hm
      cases hstart : explored'.stopped with
      | none =>
        rw [hstart] at hm
        exact h.agrees.2 hbest m hm
      | some start =>
        rw [hstart] at hm
        obtain rfl : (start, place) = m := Option.some.inj hm
        exact (hstopped' start hstart).2
    · rw [← List.map_eq_nil_iff (f := Thread.start), List.eq_nil_iff_forall_not_mem]
      exact fun start hmem => hbest (hmore start hmem).1

/-- Both sides go on behind a character. -/
theorem SideBySide.next (h : SideBySide program place best best' seen seen' threads threads')
    (before : Option Char) (c : Char) {explored explored' : Explored}
    (hexplored : Regex.arrive program false before (some c) place best seen threads = explored)
    (hexplored' : Regex.arrive program true before (some c) place best' seen' threads' =
      explored') :
    SideBySide program (place + 1) (explored.found place best) (explored'.found place best')
      explored.seen explored'.seen (advance program c explored.waiting)
      (advance program c explored'.waiting) := by
  obtain ⟨hagrees, more, hwaiting', hlater, hnone⟩ := h.arrive before (some c) hexplored hexplored'
  have hstems : explored.Stems (place + 1) seen [] threads :=
    hexplored ▸ explore_stems _ _ _ _ _ _ _ _
  have hstems' : explored'.Stems (place + 1) seen' [] (arrivals true place best' threads') :=
    hexplored' ▸ explore_stems _ _ _ _ _ _ _ _
  have hmarks {seen : Array Nat} {threads : List Thread} {explored : Explored}
      (hstems : explored.Stems (place + 1) seen [] threads) (h : ∀ mark ∈ seen, mark ≤ place) :
      ∀ mark ∈ explored.seen, mark ≤ place + 1 := by
    intro mark hmem
    rcases hstems.marks mark hmem with hmem | rfl
    · exact Nat.le_succ_of_le (h mark hmem)
    · exact Nat.le_refl _
  have hwaiting : explored.waiting.map Thread.start ⊆ threads.map Thread.start := by
    obtain ⟨more, hmore, hstarts⟩ := hstems.waiting
    rw [hmore]
    exact hstarts
  refine ⟨hstems.size.trans h.size, hstems'.size.trans h.size', hmarks hstems h.marks,
    hmarks hstems' h.marks', hagrees,
    fun start hmem => h.first start (hwaiting (starts_advance c _ hmem)),
    advance program c more ++
      (if (explored'.found place best').isNone then [⟨place + 1, 0⟩] else []), ?_, ?_, ?_⟩
  -- The threads that start later: those that went on, and a new one while nothing was found.
  · have hadvance : advance program c explored'.waiting =
        advance program c explored.waiting ++ advance program c more := by
      rw [hwaiting']
      exact List.filterMap_append
    rw [hadvance, arrivals, Bool.true_and]
    split <;> simp
  · intro start hmem
    rw [List.map_append, List.mem_append] at hmem
    rcases hmem with hmem | hmem
    · exact hlater start (starts_advance c more hmem)
    · split at hmem
      · simp only [List.map_cons, List.map_nil, List.mem_singleton] at hmem
        omega
      · simp at hmem
  · intro hfound
    obtain ⟨m, hm⟩ := Option.ne_none_iff_exists'.1 hfound
    rw [hnone hfound, (hagrees.1 m hm).2]
    rfl

/-- **The search finds what the anchored match finds, and otherwise nothing at the first place.** -/
theorem SideBySide.run_agrees
    (h : SideBySide program place best best' seen seen' threads threads') :
    Agrees (run program false before place best seen threads rest)
      (run program true before place best' seen' threads' rest) := by
  induction rest generalizing before place best best' seen seen' threads threads' with
  | nil => exact (h.arrive before none rfl rfl).1
  | cons c rest ih =>
    rw [run_cons, run_cons]
    exact ih (h.next before c rfl rfl)

/-- An anchored match and a search start side by side. -/
theorem sideBySide_start (program : Array Instruction) :
    SideBySide program 0 none none (unexplored program) (unexplored program) [⟨0, 0⟩] [] where
  size := by simp [unexplored]
  size' := by simp [unexplored]
  marks := by simp [unexplored]
  marks' := by simp [unexplored]
  agrees := ⟨by simp, by simp⟩
  first := by simp
  later := ⟨[], rfl, by simp, by simp⟩

/-- **An anchored match is a search that finds its match where it starts.** -/
theorem matchAt_eq_some_iff {n : Nat} :
    matchAt program before rest = some n ↔ search program before rest = some (0, n) := by
  have hagrees : Agrees (run program false before 0 none (unexplored program) [⟨0, 0⟩] rest)
      (run program true before 0 none (unexplored program) [] rest) :=
    (sideBySide_start program).run_agrees
  obtain ⟨hfound, hnone⟩ := hagrees
  unfold matchAt search
  constructor
  · intro h
    obtain ⟨⟨start, stop⟩, hm, rfl⟩ := Option.map_eq_some_iff.1 h
    obtain ⟨rfl, hsearch⟩ := hfound _ hm
    exact hsearch
  · intro h
    cases hm : run program false before 0 none (unexplored program) [⟨0, 0⟩] rest with
    | none => exact absurd (hnone hm _ h) (Nat.lt_irrefl 0)
    | some m =>
      have hsame := (hfound m hm).2
      rw [h] at hsame
      rw [← Option.some.inj hsame]
      rfl

end Run

end Backtrack.Regex
