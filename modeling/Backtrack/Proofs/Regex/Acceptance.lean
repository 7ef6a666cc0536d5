import Backtrack.Proofs.Regex.Anchoring
import Backtrack.Text.Offset

/-! # What the matcher accepts

    A program read as steps through a text. At each place the text in front
    is known and what follows it, and an assertion sees both. `Accepts` are
    the ways from an address to the stop.

    The matcher follows all of these ways at once. What it finds is the end
    of one of them, because each thread it goes on with stands for some of
    the ways of a thread there was (`StandsFor`). And where there is a way
    it finds one: the addresses it has visited at a place are closed under
    the steps that take no character (`Closed`), so a way leads through them
    until it takes a character or stops. This holds of every program, also
    where a loop can go round without taking a character.

    * `exists_accepts_of_matchAt`: what the matcher finds is accepted.
    * `matchAt_ne_none_of_accepts`: where a text is accepted it finds one. -/

namespace Backtrack.Regex

/-! ## §1. Acceptance -/

/-- The addresses that are entered from another one between two neighbours, without a character. -/
def entries (program : Array Instruction) (before after : Option Char) (address : Nat) : List Nat :=
  match program[address]? with
  | some (.check condition) => if condition.holds before after then [address + 1] else []
  | some (.fork first second) => [first, second]
  | some (.jump target) => [target]
  | _ => []

/-- From an address the program can take a text and stop, in at most so many steps. One text is in
front of the text that is taken, and another one behind it. -/
inductive Accepts (program : Array Instruction) : (steps : Nat) → (front text behind : Text) →
    (address : Nat) → Prop where
  | stop {steps : Nat} {front behind : Text} {address : Nat} :
      program[address]? = some .stop → Accepts program steps front [] behind address
  | take {steps : Nat} {front text behind : Text} {address : Nat} {chars : CharSet} {c : Char} :
      program[address]? = some (.take chars) → chars.contains c = true →
      Accepts program steps (front ++ [c]) text behind (address + 1) →
      Accepts program (steps + 1) front (c :: text) behind address
  | enter {steps : Nat} {front text behind : Text} {address later : Nat} :
      later ∈ entries program front.getLast? (text ++ behind).head? address →
      Accepts program steps front text behind later →
      Accepts program (steps + 1) front text behind address

section Accepts

variable {program : Array Instruction} {steps more : Nat} {front text behind : Text}
  {address go leave : Nat} {chars : CharSet} {greedy : Bool}

theorem Accepts.mono (h : Accepts program steps front text behind address) (hle : steps ≤ more) :
    Accepts program more front text behind address := by
  induction h generalizing more with
  | stop hat => exact .stop hat
  | take hat hc _ ih =>
    obtain ⟨fewer, rfl⟩ : ∃ fewer, more = fewer + 1 := ⟨more - 1, by omega⟩
    exact .take hat hc (ih (by omega))
  | enter hlater _ ih =>
    obtain ⟨fewer, rfl⟩ : ∃ fewer, more = fewer + 1 := ⟨more - 1, by omega⟩
    exact .enter hlater (ih (by omega))

/-- There is nothing to accept where the program has no address. -/
theorem Accepts.lt_size (h : Accepts program steps front text behind address) :
    address < program.size := by
  have hsome {instruction : Instruction} (hat : program[address]? = some instruction) :
      address < program.size := (Array.getElem?_eq_some_iff.1 hat).1
  cases h with
  | stop hat => exact hsome hat
  | take hat _ _ => exact hsome hat
  | enter hlater _ =>
    unfold entries at hlater
    cases hat : program[address]? with
    | none => simp [hat] at hlater
    | some instruction => exact hsome hat

theorem accepts_stop_iff (hat : program[address]? = some .stop) :
    Accepts program steps front text behind address ↔ text = [] := by
  constructor
  · intro h
    cases h with
    | stop _ => rfl
    | take hat' _ _ => cases hat.symm.trans hat'
    | enter hlater _ => simp [entries, hat] at hlater
  · rintro rfl
    exact .stop hat

theorem Accepts.of_take (hat : program[address]? = some (.take chars))
    (h : Accepts program steps front text behind address) :
    ∃ fewer c rest, steps = fewer + 1 ∧ text = c :: rest ∧ chars.contains c = true ∧
      Accepts program fewer (front ++ [c]) rest behind (address + 1) := by
  cases h with
  | stop hat' => cases hat.symm.trans hat'
  | take hat' hc h =>
    cases hat.symm.trans hat'
    exact ⟨_, _, _, rfl, rfl, hc, h⟩
  | enter hlater _ => simp [entries, hat] at hlater

/-- An instruction that neither takes a character nor stops is left for one of its entries. -/
theorem Accepts.of_entries (htake : ∀ chars, program[address]? ≠ some (.take chars))
    (hstop : program[address]? ≠ some .stop)
    (h : Accepts program steps front text behind address) :
    ∃ fewer later, steps = fewer + 1 ∧
      later ∈ entries program front.getLast? (text ++ behind).head? address ∧
      Accepts program fewer front text behind later := by
  cases h with
  | stop hat => exact absurd hat hstop
  | take hat _ _ => exact absurd hat (htake _)
  | enter hlater h => exact ⟨_, _, rfl, hlater, h⟩

/-- Where going on or leaving is chosen, both addresses are entered, in one order or the other. -/
theorem mem_entries_choose_iff {before after : Option Char} {later : Nat}
    (hat : program[address]? = some (.choose greedy go leave)) :
    later ∈ entries program before after address ↔ later = go ∨ later = leave := by
  cases greedy with
  | true => simp [entries, hat, Instruction.choose]
  | false => simp [entries, hat, Instruction.choose, or_comm]

theorem Accepts.of_choose (hat : program[address]? = some (.choose greedy go leave))
    (h : Accepts program steps front text behind address) :
    ∃ fewer, steps = fewer + 1 ∧
      (Accepts program fewer front text behind go ∨
        Accepts program fewer front text behind leave) := by
  have htake (chars : CharSet) : program[address]? ≠ some (.take chars) := by
    cases greedy <;> simp [hat, Instruction.choose]
  have hstop : program[address]? ≠ some .stop := by
    cases greedy <;> simp [hat, Instruction.choose]
  obtain ⟨fewer, later, hsteps, hlater, h⟩ := h.of_entries htake hstop
  refine ⟨fewer, hsteps, ?_⟩
  rcases (mem_entries_choose_iff hat).1 hlater with rfl | rfl
  · exact .inl h
  · exact .inr h

theorem Accepts.choose_go (hat : program[address]? = some (.choose greedy go leave))
    (h : Accepts program steps front text behind go) :
    Accepts program (steps + 1) front text behind address :=
  .enter ((mem_entries_choose_iff hat).2 (.inl rfl)) h

theorem Accepts.choose_leave (hat : program[address]? = some (.choose greedy go leave))
    (h : Accepts program steps front text behind leave) :
    Accepts program (steps + 1) front text behind address :=
  .enter ((mem_entries_choose_iff hat).2 (.inr rfl)) h

end Accepts

/-! ## §2. Visits -/

section Visit

variable {program : Array Instruction} {before after : Option Char} {thread other : Thread}
  {waits next : List Thread}

/-- A visit puts the entries of an address in its place. -/
theorem Thread.entries_of_visit (hvisit : thread.visit program before after = some (waits, next)) :
    next.map Thread.address = entries program before after thread.address := by
  unfold Thread.visit at hvisit
  unfold entries
  split at hvisit <;> cases hvisit
  · simp [*]
  · split <;> simp [*, Thread.at]
  · simp [*, Thread.at]
  · simp [*, Thread.at]
  · simp [*]

/-- The thread that waits behind a visit is the one that was visited. -/
theorem Thread.eq_of_mem_waits (hvisit : thread.visit program before after = some (waits, next))
    (hmem : other ∈ waits) : other = thread := by
  unfold Thread.visit at hvisit
  split at hvisit <;> cases hvisit
  · exact List.mem_singleton.1 hmem
  all_goals cases hmem

theorem Thread.mem_waits_of_take {chars : CharSet}
    (hvisit : thread.visit program before after = some (waits, next))
    (hat : program[thread.address]? = some (.take chars)) : thread ∈ waits := by
  unfold Thread.visit at hvisit
  rw [hat] at hvisit
  cases hvisit
  exact List.mem_singleton_self thread

theorem Thread.visit_eq_none_iff : thread.visit program before after = none ↔
    program[thread.address]? = some .stop := by
  unfold Thread.visit
  split <;> simp_all

theorem Thread.start_of_visit (hvisit : thread.visit program before after = some (waits, next))
    (hmem : other ∈ next) : other.start = thread.start := by
  have hstarts := Thread.starts_of_visit hvisit
  have hstart : other.start ∈ (waits ++ next).map Thread.start :=
    List.mem_map_of_mem (List.mem_append_right waits hmem)
  exact List.mem_singleton.1 (hstarts hstart)

/-- The thread behind a character stands where the one that took it goes on. -/
theorem mem_advance_iff {c : Char} {threads : List Thread} : other ∈ advance program c threads ↔
    ∃ thread ∈ threads, ∃ chars, program[thread.address]? = some (.take chars) ∧
      chars.contains c = true ∧ other = thread.at (thread.address + 1) := by
  have htake (thread : Thread) : thread.take? program c = some other ↔
      ∃ chars, program[thread.address]? = some (.take chars) ∧ chars.contains c = true ∧
        other = thread.at (thread.address + 1) := by
    constructor
    · intro h
      unfold Thread.take? at h
      split at h
      · next chars hat =>
        split at h
        · next hc => exact ⟨chars, hat, hc, (Option.some.inj h).symm⟩
        · cases h
      · cases h
    · rintro ⟨chars, hat, hc, rfl⟩
      simp [Thread.take?, hat, hc]
  simp only [advance, List.mem_filterMap, htake]

end Visit

/-! ## §3. What is found is accepted -/

section Sound

variable {program : Array Instruction} {front rest : Text} {place steps : Nat} {seen : Array Nat}
  {waiting todo threads next waits : List Thread} {thread other : Thread}
  {best : Option (Nat × Nat)}

/-- A thread stands for another one: it started in the same place and accepts what the other one
accepts. -/
def StandsFor (program : Array Instruction) (front rest : Text) (thread other : Thread) : Prop :=
  other.start = thread.start ∧ ∀ steps text behind, text ++ behind = rest →
    Accepts program steps front text behind other.address →
      ∃ steps, Accepts program steps front text behind thread.address

theorem StandsFor.refl (thread : Thread) : StandsFor program front rest thread thread :=
  ⟨rfl, fun steps _ _ _ h => ⟨steps, h⟩⟩

theorem StandsFor.trans {third : Thread} (h₁ : StandsFor program front rest thread other)
    (h₂ : StandsFor program front rest other third) :
    StandsFor program front rest thread third := by
  refine ⟨h₂.1.trans h₁.1, fun steps text behind hrest h => ?_⟩
  obtain ⟨steps, h⟩ := h₂.2 steps text behind hrest h
  exact h₁.2 steps text behind hrest h

/-- A thread stands for those that a visit puts in its place. -/
theorem StandsFor.of_visit
    (hvisit : thread.visit program front.getLast? rest.head? = some (waits, next))
    (hmem : other ∈ next) : StandsFor program front rest thread other := by
  refine ⟨Thread.start_of_visit hvisit hmem, fun steps text behind hrest h => ⟨steps + 1, ?_⟩⟩
  have hentry : other.address ∈ next.map Thread.address := List.mem_map_of_mem hmem
  rw [Thread.entries_of_visit hvisit, ← hrest] at hentry
  exact .enter hentry h

/-- A thread that stops is, or comes from, one that accepts the empty text, and one that waits has
one that stands for it. -/
structure Explored.Sound (program : Array Instruction) (front rest : Text)
    (waiting todo : List Thread) (explored : Explored) : Prop where
  stopped : ∀ start ∈ explored.stopped, ∃ thread ∈ todo, thread.start = start ∧
    ∃ steps, Accepts program steps front [] rest thread.address
  waiting : ∀ other ∈ explored.waiting, other ∈ waiting ∨
    ∃ thread ∈ todo, StandsFor program front rest thread other

theorem explore_sound : (explore program place front.getLast? rest.head? steps seen waiting
    todo).Sound program front rest waiting todo := by
  induction steps generalizing seen waiting todo with
  | zero => exact ⟨by simp [explore], fun other hmem => .inl (by simpa [explore] using hmem)⟩
  | succ steps ih =>
  cases todo with
  | nil => exact ⟨by simp [explore], fun other hmem => .inl (by simpa [explore] using hmem)⟩
  | cons thread todo =>
    by_cases hseen : seen[thread.address]? = some place
    · rw [explore, if_pos hseen]
      obtain ⟨hstopped, hwaiting⟩ := @ih seen waiting todo
      refine ⟨fun start hstart => ?_, fun other hmem => ?_⟩
      · obtain ⟨earlier, hearlier, h⟩ := hstopped start hstart
        exact ⟨earlier, List.mem_cons_of_mem _ hearlier, h⟩
      · apply (hwaiting other hmem).imp_right
        rintro ⟨earlier, hearlier, h⟩
        exact ⟨earlier, List.mem_cons_of_mem _ hearlier, h⟩
    cases hvisit : thread.visit program front.getLast? rest.head? with
    | none =>
      rw [explore_of_stop hseen hvisit]
      refine ⟨fun start hstart => ⟨thread, List.mem_cons_self, Option.some.inj hstart, 0, ?_⟩,
        fun other hmem => .inl (List.mem_reverse.1 hmem)⟩
      exact .stop (Thread.visit_eq_none_iff.1 hvisit)
    | some visited =>
      obtain ⟨waits, next⟩ := visited
      rw [explore_of_visit hseen hvisit]
      obtain ⟨hstopped, hwaiting⟩ :=
        @ih (seen.setIfInBounds thread.address place) (waits ++ waiting) (next ++ todo)
      -- What comes of the threads of the visit comes of the thread that was visited.
      have hearlier {later : Thread} (hmem : later ∈ next ++ todo) :
          ∃ earlier ∈ thread :: todo, StandsFor program front rest earlier later := by
        rcases List.mem_append.1 hmem with hmem | hmem
        · exact ⟨thread, List.mem_cons_self, .of_visit hvisit hmem⟩
        · exact ⟨later, List.mem_cons_of_mem _ hmem, .refl later⟩
      refine ⟨fun start hstart => ?_, fun other hmem => ?_⟩
      · obtain ⟨later, hmem, rfl, steps, h⟩ := hstopped start hstart
        obtain ⟨earlier, hmem, hstart, haccepts⟩ := hearlier hmem
        exact ⟨earlier, hmem, hstart.symm, haccepts steps [] rest rfl h⟩
      · rcases hwaiting other hmem with hmem | ⟨later, hmem, hstands⟩
        · rcases List.mem_append.1 hmem with hmem | hmem
          · obtain rfl := Thread.eq_of_mem_waits hvisit hmem
            exact .inr ⟨other, List.mem_cons_self, .refl other⟩
          · exact .inl hmem
        · obtain ⟨earlier, hmem, hstands'⟩ := hearlier hmem
          exact .inr ⟨earlier, hmem, hstands'.trans hstands⟩

/-- A match of threads: where one of them started, and the place behind what it accepts. -/
def IsMatch (program : Array Instruction) (front rest : Text) (place : Nat) (threads : List Thread)
    (m : Nat × Nat) : Prop :=
  ∃ thread ∈ threads, ∃ steps text behind, text ++ behind = rest ∧
    Accepts program steps front text behind thread.address ∧
    m = (thread.start, place + text.length)

theorem arrive_sound {explored : Explored}
    (hexplored : arrive program false front.getLast? rest.head? place best seen threads =
      explored) : explored.Sound program front rest [] threads := by
  rw [arrive_eq_exploreAll] at hexplored
  exact hexplored ▸ explore_sound

/-- What is found at a place is a match, or was found earlier. -/
theorem isMatch_of_found {m : Nat × Nat} {explored : Explored}
    (hexplored : arrive program false front.getLast? rest.head? place best seen threads = explored)
    (h : explored.found place best = some m) :
    best = some m ∨ IsMatch program front rest place threads m := by
  have hsound : explored.Sound program front rest [] threads := arrive_sound hexplored
  unfold Explored.found at h
  cases hstart : explored.stopped with
  | none =>
    rw [hstart] at h
    exact .inl h
  | some start =>
    rw [hstart] at h
    obtain rfl : (start, place) = m := Option.some.inj h
    obtain ⟨thread, hmem, rfl, steps, haccepts⟩ := hsound.stopped start hstart
    exact .inr ⟨thread, hmem, steps, [], rest, rfl, haccepts, rfl⟩

/-- A match behind a character is one in front of it. -/
theorem IsMatch.of_advance {c : Char} {m : Nat × Nat} {explored : Explored}
    (hexplored : arrive program false front.getLast? (some c) place best seen threads = explored)
    (h : IsMatch program (front ++ [c]) rest (place + 1) (advance program c explored.waiting) m) :
    IsMatch program front (c :: rest) place threads m := by
  have hsound : explored.Sound program front (c :: rest) [] threads := arrive_sound hexplored
  obtain ⟨next, hnext, steps, text, behind, rfl, haccepts, rfl⟩ := h
  obtain ⟨other, hother, chars, hat, hc, rfl⟩ := mem_advance_iff.1 hnext
  obtain ⟨thread, hmem, hstart, hstands⟩ :=
    (hsound.waiting other hother).resolve_left List.not_mem_nil
  obtain ⟨steps, h⟩ := hstands (steps + 1) (c :: text) behind rfl (.take hat hc haccepts)
  refine ⟨thread, hmem, steps, c :: text, behind, rfl, h, ?_⟩
  rw [← hstart, List.length_cons, Nat.add_assoc, Nat.add_comm 1]
  rfl

/-- A run finds a match of its threads, or what was found before. -/
theorem isMatch_of_run {m : Nat × Nat}
    (h : run program false front.getLast? place best seen threads rest = some m) :
    best = some m ∨ IsMatch program front rest place threads m := by
  induction rest generalizing front place best seen threads with
  | nil => exact isMatch_of_found rfl h
  | cons c rest ih =>
    rw [run_cons] at h
    generalize hexplored : arrive program false front.getLast? (some c) place best seen threads =
      explored at h
    rw [show some c = (front ++ [c]).getLast? by simp] at h
    rcases ih h with hfound | hmatch
    · exact @isMatch_of_found _ front (c :: rest) _ _ _ _ _ _ hexplored hfound
    · exact .inr (hmatch.of_advance hexplored)

/-- **What the matcher finds is accepted.** -/
theorem exists_accepts_of_matchAt {n : Nat}
    (h : matchAt program front.getLast? rest = some n) :
    ∃ steps text behind, text ++ behind = rest ∧ text.length = n ∧
      Accepts program steps front text behind 0 := by
  obtain ⟨m, hrun, rfl⟩ := Option.map_eq_some_iff.1 h
  obtain ⟨thread, hmem, steps, text, behind, hrest, haccepts, rfl⟩ :=
    (isMatch_of_run hrun).resolve_left nofun
  obtain rfl := List.mem_singleton.1 hmem
  exact ⟨steps, text, behind, hrest, (Nat.zero_add _).symm, haccepts⟩

end Sound

/-! ## §4. What is accepted is found -/

section Complete

variable {program : Array Instruction} {before after : Option Char} {front rest text behind : Text}
  {place steps address : Nat} {seen : Array Nat} {waiting todo threads next waits : List Thread}
  {thread : Thread} {best : Option (Nat × Nat)}

/-- The addresses that were visited at a place are closed under the steps that take no character, up
to those that are still to be explored. None of them stops, and a thread waits at each that takes a
character. -/
structure Closed (program : Array Instruction) (place : Nat) (before after : Option Char)
    (seen : Array Nat) (waiting todo : List Thread) : Prop where
  stop : ∀ address : Nat, seen[address]? = some place → program[address]? ≠ some .stop
  take : ∀ (address : Nat) (chars : CharSet), seen[address]? = some place →
    program[address]? = some (.take chars) → address ∈ waiting.map Thread.address
  enter : ∀ address : Nat, seen[address]? = some place →
    ∀ later ∈ entries program before after address, later < program.size →
      seen[later]? = some place ∨ later ∈ todo.map Thread.address

/-- A thread at an address that was visited can be left out. -/
theorem Closed.skip (h : Closed program place before after seen waiting (thread :: todo))
    (hseen : seen[thread.address]? = some place) :
    Closed program place before after seen waiting todo where
  stop := h.stop
  take := h.take
  enter address hvisited later hlater hlt := by
    rcases h.enter address hvisited later hlater hlt with hvisited | hmem
    · exact .inl hvisited
    · rcases List.mem_cons.1 hmem with rfl | hmem
      · exact .inl hseen
      · exact .inr hmem

/-- What has been visited behind a visit. -/
theorem visited_of_visit (hsize : seen.size = program.size) (hlt : address < program.size)
    (h : seen[address]? = some place ∨ address ∈ (thread :: todo).map Thread.address) :
    (seen.setIfInBounds thread.address place)[address]? = some place ∨
      address ∈ (next ++ todo).map Thread.address := by
  by_cases haddress : thread.address = address
  · subst haddress
    rw [Array.getElem?_setIfInBounds_self, if_pos (by omega)]
    exact .inl rfl
  · rw [Array.getElem?_setIfInBounds_ne haddress, List.map_append, List.mem_append]
    rw [List.map_cons, List.mem_cons] at h
    rcases h with hvisited | rfl | hmem
    · exact .inl hvisited
    · exact absurd rfl haddress
    · exact .inr (.inr hmem)

theorem Closed.visit (h : Closed program place before after seen waiting (thread :: todo))
    (hsize : seen.size = program.size)
    (hvisit : thread.visit program before after = some (waits, next)) :
    Closed program place before after (seen.setIfInBounds thread.address place)
      (waits ++ waiting) (next ++ todo) := by
  -- An address that counts as visited is the new one or was visited before.
  have hcases {address : Nat}
      (hvisited : (seen.setIfInBounds thread.address place)[address]? = some place) :
      address = thread.address ∨ seen[address]? = some place := by
    by_cases haddress : thread.address = address
    · exact .inl haddress.symm
    · rw [Array.getElem?_setIfInBounds_ne haddress] at hvisited
      exact .inr hvisited
  refine ⟨fun address hvisited => ?_, fun address chars hvisited hat => ?_,
    fun address hvisited later hlater hlt => ?_⟩
  · rcases hcases hvisited with rfl | hvisited
    · intro hstop
      rw [Thread.visit_eq_none_iff.2 hstop] at hvisit
      cases hvisit
    · exact h.stop address hvisited
  · rw [List.map_append, List.mem_append]
    rcases hcases hvisited with rfl | hvisited
    · exact .inl (List.mem_map_of_mem (Thread.mem_waits_of_take hvisit hat))
    · exact .inr (h.take address chars hvisited hat)
  · rcases hcases hvisited with rfl | hvisited
    · rw [← Thread.entries_of_visit hvisit] at hlater
      rw [List.map_append]
      exact .inr (List.mem_append_left _ hlater)
    · exact visited_of_visit hsize hlt (h.enter address hvisited later hlater hlt)

/-- Exploring ends at a stop, or with all that was to be explored visited. -/
theorem explore_closed (hsize : seen.size = program.size)
    (hsteps : todo.length + 2 * unvisited place seen < steps)
    (hclosed : Closed program place before after seen waiting todo) {explored : Explored}
    (hexplored : explore program place before after steps seen waiting todo = explored) :
    explored.stopped ≠ none ∨
      Closed program place before after explored.seen explored.waiting [] ∧
        ∀ address < program.size,
          seen[address]? = some place ∨ address ∈ todo.map Thread.address →
            explored.seen[address]? = some place := by
  induction steps generalizing seen waiting todo with
  | zero => omega
  | succ steps ih =>
  cases todo with
  | nil =>
    subst hexplored
    refine .inr ⟨⟨hclosed.stop, fun address chars hvisited hat => ?_, hclosed.enter⟩,
      fun address _ hvisited => ?_⟩
    · have hwaits := hclosed.take address chars hvisited hat
      simpa [explore] using hwaits
    · simpa [explore] using hvisited
  | cons thread todo =>
    rw [List.length_cons] at hsteps
    by_cases hseen : seen[thread.address]? = some place
    · rw [explore, if_pos hseen] at hexplored
      apply (ih hsize (by omega) (hclosed.skip hseen) hexplored).imp_right
      rintro ⟨hclosed, hvisited⟩
      refine ⟨hclosed, fun address hlt h => hvisited address hlt ?_⟩
      rw [List.map_cons, List.mem_cons] at h
      rcases h with h | rfl | h
      · exact .inl h
      · exact .inl hseen
      · exact .inr h
    cases hvisit : thread.visit program before after with
    | none =>
      rw [explore_of_stop hseen hvisit] at hexplored
      subst hexplored
      exact .inl (Option.some_ne_none _)
    | some visited =>
      obtain ⟨waits, next⟩ := visited
      have hfewer := Thread.length_of_visit hvisit hsize hseen
      rw [explore_of_visit hseen hvisit] at hexplored
      apply (ih (by simpa using hsize) (by rw [List.length_append]; omega)
        (hclosed.visit hsize hvisit) hexplored).imp_right
      rintro ⟨hclosed, hvisited⟩
      exact ⟨hclosed, fun address hlt h => hvisited address hlt (visited_of_visit hsize hlt h)⟩

/-- A way from an address that was visited comes to a thread that waits, and takes a character
there. -/
theorem Accepts.exists_waiting (h : Accepts program steps front text behind address)
    (hclosed : Closed program place front.getLast? (text ++ behind).head? seen waiting [])
    (hseen : seen[address]? = some place) :
    ∃ thread ∈ waiting, ∃ steps chars c more, text = c :: more ∧
      program[thread.address]? = some (.take chars) ∧ chars.contains c = true ∧
      Accepts program steps (front ++ [c]) more behind (thread.address + 1) := by
  induction h with
  | stop hat => exact absurd hat (hclosed.stop _ hseen)
  | @take steps front text behind address chars c hat hc h _ =>
    obtain ⟨thread, hmem, rfl⟩ := List.mem_map.1 (hclosed.take _ chars hseen hat)
    exact ⟨thread, hmem, steps, chars, c, text, rfl, hat, hc, h⟩
  | enter hlater h ih =>
    apply ih hclosed
    exact (hclosed.enter _ hseen _ hlater h.lt_size).resolve_right List.not_mem_nil

/-- At a new place, of threads one of which accepts a text, one stops, or one waits for the text's
first character and accepts the others behind it. -/
theorem arrive_complete (hsize : seen.size = program.size) (hmarks : ∀ mark ∈ seen, mark ≤ place)
    (hmem : thread ∈ threads) (h : Accepts program steps front text behind thread.address)
    {explored : Explored} (hexplored : arrive program false front.getLast? (text ++ behind).head?
      place best seen threads = explored) :
    explored.stopped ≠ none ∨
      ∃ c more steps, text = c :: more ∧ ∃ next ∈ advance program c explored.waiting,
        Accepts program steps (front ++ [c]) more behind next.address := by
  have hfresh (address : Nat) : seen[address]? ≠ some (place + 1) := fun hmark => by
    have hle := hmarks _ (Array.mem_of_getElem? hmark)
    omega
  have hclosed : Closed program (place + 1) front.getLast? (text ++ behind).head? seen []
      threads :=
    ⟨fun address hseen => absurd hseen (hfresh address),
      fun address _ hseen => absurd hseen (hfresh address),
      fun address hseen => absurd hseen (hfresh address)⟩
  have hunvisited : unvisited (place + 1) seen ≤ program.size := hsize ▸ Array.countP_le_size
  rw [arrive_eq_exploreAll] at hexplored
  apply (explore_closed hsize ?_ hclosed hexplored).imp_right
  · rintro ⟨hclosed, hvisited⟩
    have hseen := hvisited thread.address h.lt_size (.inr (List.mem_map_of_mem hmem))
    obtain ⟨other, hother, steps, chars, c, more, rfl, hat, hc, h⟩ :=
      h.exists_waiting hclosed hseen
    exact ⟨c, more, steps, rfl, other.at (other.address + 1),
      mem_advance_iff.2 ⟨other, hother, chars, hat, hc, rfl⟩, h⟩
  · simp only [arrivals, Bool.false_and, Bool.false_eq_true, if_false]
    omega

/-- A run finds something if one of its threads accepts a text, or if something was found before. -/
theorem run_ne_none (hsize : seen.size = program.size) (hmarks : ∀ mark ∈ seen, mark ≤ place)
    (h : best ≠ none ∨ ∃ thread ∈ threads, ∃ steps text behind, text ++ behind = rest ∧
      Accepts program steps front text behind thread.address) :
    run program false front.getLast? place best seen threads rest ≠ none := by
  induction rest generalizing front place best seen threads with
  | nil =>
    rw [run]
    rcases h with hbest | ⟨thread, hmem, steps, text, behind, hrest, haccepts⟩
    · simp [Explored.found, Option.or_eq_none_iff, hbest]
    · obtain ⟨rfl, rfl⟩ := List.append_eq_nil_iff.1 hrest
      rcases arrive_complete hsize hmarks hmem haccepts rfl with hstopped | hmore
      · simpa [Explored.found, Option.or_eq_none_iff] using fun hnone => absurd hnone hstopped
      · obtain ⟨c, more, _, htext, _⟩ := hmore
        cases htext
  | cons c rest ih =>
    rw [run_cons]
    generalize hexplored : arrive program false front.getLast? (some c) place best seen threads =
      explored
    have hstems : explored.Stems (place + 1) seen [] threads :=
      hexplored ▸ explore_stems _ _ _ _ _ _ _ _
    rw [show some c = (front ++ [c]).getLast? by simp]
    refine ih (hstems.size.trans hsize) (fun mark hmem => ?_) ?_
    · rcases hstems.marks mark hmem with hmem | rfl
      · exact Nat.le_succ_of_le (hmarks mark hmem)
      · exact Nat.le_refl _
    -- What was found before is kept unless something better is found.
    have hfound (hsome : explored.stopped ≠ none ∨ best ≠ none) :
        explored.found place best ≠ none := by
      intro hnone
      rw [Explored.found, Option.or_eq_none_iff, Option.map_eq_none_iff] at hnone
      exact hsome.elim (fun h => h hnone.1) (fun h => h hnone.2)
    rcases h with hbest | ⟨thread, hmem, steps, text, behind, hrest, haccepts⟩
    · exact .inl (hfound (.inr hbest))
    · rw [show some c = (text ++ behind).head? by rw [hrest]; rfl] at hexplored
      rcases arrive_complete hsize hmarks hmem haccepts hexplored with hstopped | hmore
      · exact .inl (hfound (.inl hstopped))
      · obtain ⟨d, more, steps, rfl, next, hnext, haccepts⟩ := hmore
        obtain ⟨rfl, htail⟩ := List.cons.inj hrest
        exact .inr ⟨next, hnext, steps, more, behind, htail, haccepts⟩

/-- **Where the program accepts a text the matcher finds one.** -/
theorem matchAt_ne_none_of_accepts (h : Accepts program steps front text behind 0) :
    matchAt program front.getLast? (text ++ behind) ≠ none := by
  have hrun : run program false front.getLast? 0 none (unexplored program) [⟨0, 0⟩]
      (text ++ behind) ≠ none :=
    run_ne_none (by simp [unexplored]) (by simp [unexplored])
      (.inr ⟨⟨0, 0⟩, List.mem_singleton_self _, steps, text, behind, rfl, h⟩)
  exact fun hnone => hrun (Option.map_eq_none_iff.1 hnone)

end Complete

end Backtrack.Regex
