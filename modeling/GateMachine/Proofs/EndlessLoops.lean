import GateMachine.Proofs.InterruptedRuns
import GateMachine.Proofs.StackFrames

/-!
Runs that never end. A step looks at the program counter and at the words it needs,
never at what was printed; so a state that `Covers` another one, standing at the same
place with the same words on top, goes on wherever the other does (`goesOn_of_covers`).
A `Loop` comes back to a state that covers the one it started from, with as many
words more as it likes. Each round can then be repeated (`Loop.again`), and the
machine neither halts nor faults (`loop_never_ends`).
-/

namespace GateMachine

/-- The state as if nothing had been printed yet. -/
def State.unprinted (state : State) : State := { state with output := #[] }

namespace Program

variable {program : Program} {state other : State} {ticks period : Nat}

section GoingOn

/-- Each of the first ticks goes on. -/
def GoesOn (program : Program) (ticks : Nat) (state : State) : Prop :=
  ∀ earlier < ticks, program.tick earlier state = .ok .running

instance decidableRunning (report : Except Fault Tick) : Decidable (report = .ok .running) :=
  match report with
  | .ok .running => isTrue rfl
  | .ok .halted | .error _ => isFalse nofun

instance (program : Program) (ticks : Nat) (state : State) :
    Decidable (program.GoesOn ticks state) :=
  Nat.decidableBallLT ticks fun earlier _ => program.tick earlier state = .ok .running

theorem goesOn_zero (program : Program) (state : State) : program.GoesOn 0 state :=
  fun _ before => absurd before (Nat.not_lt_zero _)

theorem tick_add (program : Program) (first second : Nat) (state : State) :
    program.tick (first + second) state = program.tick second (program.after first state) := by
  rw [tick, after_add]
  rfl

theorem goesOn_add {first second : Nat} :
    program.GoesOn (first + second) state ↔
      program.GoesOn first state ∧ program.GoesOn second (program.after first state) := by
  constructor
  · intro running
    constructor
    · intro earlier before
      exact running earlier (Nat.lt_add_right second before)
    · intro earlier before
      rw [← tick_add]
      exact running (first + earlier) (Nat.add_lt_add_left before first)
  · rintro ⟨start, rest⟩ ticks before
    by_cases early : ticks < first
    · exact start ticks early
    · rcases Nat.exists_eq_add_of_le (Nat.le_of_not_lt early) with ⟨later, rfl⟩
      rw [tick_add]
      exact rest later (Nat.lt_of_add_lt_add_left before)

theorem goesOn_succ {ticks : Nat} :
    program.GoesOn (ticks + 1) state ↔
      (program.step state).1 = .ok .running ∧ program.GoesOn ticks (program.step state).2 := by
  rw [Nat.add_comm, goesOn_add]
  apply and_congr_left
  intro _
  constructor
  · intro running
    exact running 0 Nat.zero_lt_one
  · intro running earlier before
    rw [Nat.lt_one_iff.mp before]
    exact running

theorem active_of_running (running : (program.step state).1 = .ok .running) :
    state.halted = false := by
  by_cases halted : state.halted = true
  · rw [step_of_halted halted] at running
    cases running
  · simpa using halted

theorem halted_of_running (running : (program.step state).1 = .ok .running) :
    (program.step state).2.halted = state.halted := by
  have outcome := outcome_of_step program state
  generalize program.step state = result at outcome running
  cases outcome with
  | next | goto | print | fault => rfl
  | idle | stop => cases running

theorem halted_after (running : program.GoesOn ticks state) :
    (program.after ticks state).halted = state.halted := by
  induction ticks generalizing state with
  | zero => rfl
  | succ ticks ih =>
      rcases goesOn_succ.mp running with ⟨now, later⟩
      rw [after, ih later, halted_of_running now]

-- A machine that has halted or faulted says so for ever, so before a tick that goes
-- on there are only such ticks.
theorem goesOn_of_tick (running : program.tick ticks state = .ok .running) :
    program.GoesOn ticks state := by
  induction ticks generalizing state with
  | zero => exact goesOn_zero program state
  | succ ticks ih =>
      rcases stepped : program.step state with ⟨fault | ⟨_ | _⟩, next⟩
      · rw [tick, step_again stepped] at running
        contradiction
      · rw [tick_succ stepped] at running
        apply goesOn_succ.mpr
        rw [stepped]
        exact ⟨rfl, ih running⟩
      · rw [tick_succ stepped, tick, after_of_stopped stepped, step_of_stopped stepped] at running
        cases running

end GoingOn

section Covering

/-- The second state is at the same place and has the words of the first on top. What
either has printed does not count. -/
structure Covers (state other : State) : Prop where
  pc : other.pc = state.pc
  halted : other.halted = state.halted
  stack : state.stack.toList <+: other.stack.toList

theorem Covers.refl (state : State) : Covers state state :=
  ⟨rfl, rfl, List.prefix_refl state.stack.toList⟩

theorem eq_atop_unprinted (state : State) :
    state = state.unprinted.atop state.output [] :=
  State.eq_atop rfl (List.append_nil _).symm Array.append_empty.symm rfl

theorem Covers.eq_atop (covers : Covers state other) :
    ∃ below, other = state.unprinted.atop other.output below := by
  rcases covers.stack with ⟨below, whole⟩
  exact ⟨below, State.eq_atop covers.pc whole.symm Array.append_empty.symm covers.halted⟩

theorem reportAfter_eq_ok_iff {printed : Output} {report : Except Fault Tick} {tick : Tick} :
    reportAfter printed report = .ok tick ↔ report = .ok tick := by
  cases report with
  | error fault => simp [reportAfter]
  | ok said => rfl

theorem covers_atop (state : State) (first second : Output) (below : List Word) :
    Covers (state.atop first []) (state.atop second below) where
  pc := rfl
  halted := rfl
  stack := by
    simp [State.atop]

theorem not_underflows_of_running (running : (program.step state).1 = .ok .running) :
    ¬ program.Underflows state := by
  rintro ⟨_, _, _, fault, faulted, _⟩
  rw [running] at faulted
  cases faulted

-- Both states are the unprinted one, each after its own output and on top of its own words.
theorem covers_step (running : (program.step state).1 = .ok .running)
    (covers : Covers state other) :
    (program.step other).1 = .ok .running ∧
      Covers (program.step state).2 (program.step other).2 := by
  have enough : ¬ program.Underflows state.unprinted := by
    rw [underflows_iff]
    exact fun short => not_underflows_of_running running (underflows_iff.mpr short)
  have here := step_atop enough state.output []
  rw [← eq_atop_unprinted] at here
  rcases covers.eq_atop with ⟨below, same⟩
  have there := step_atop enough other.output below
  rw [← same] at there
  rw [here] at running ⊢
  rw [there]
  constructor
  · exact reportAfter_eq_ok_iff.mpr (reportAfter_eq_ok_iff.mp running)
  · exact covers_atop _ state.output other.output below

theorem goesOn_of_covers (running : program.GoesOn ticks state) (covers : Covers state other) :
    program.GoesOn ticks other ∧
      Covers (program.after ticks state) (program.after ticks other) := by
  induction ticks generalizing state other with
  | zero => exact ⟨goesOn_zero program other, covers⟩
  | succ ticks ih =>
      rcases goesOn_succ.mp running with ⟨now, later⟩
      have stepped := covers_step now covers
      have rest := ih later stepped.2
      exact ⟨goesOn_succ.mpr ⟨stepped.1, rest.1⟩, rest.2⟩

end Covering

section Loops

/-- Some ticks that all go on lead back to the same place, with the words of the stack
on top of any others. -/
structure Loop (program : Program) (state : State) (period : Nat) : Prop where
  positive : 1 ≤ period
  running : program.GoesOn period state
  pc : (program.after period state).pc = state.pc
  stack : state.stack.toList <+: (program.after period state).stack.toList

theorem Loop.active (loop : program.Loop state period) : state.halted = false :=
  active_of_running (loop.running 0 loop.positive)

theorem Loop.covers (loop : program.Loop state period) :
    Covers state (program.after period state) :=
  ⟨loop.pc, halted_after loop.running, loop.stack⟩

/-- After a round comes another. -/
theorem Loop.again (loop : program.Loop state period) :
    program.Loop (program.after period state) period := by
  have round := goesOn_of_covers loop.running loop.covers
  exact ⟨loop.positive, round.1, round.2.pc, round.2.stack⟩

theorem Loop.rounds (loop : program.Loop state period) (count : Nat) :
    program.GoesOn (count * period) state := by
  induction count generalizing state with
  | zero =>
      rw [Nat.zero_mul]
      exact goesOn_zero program state
  | succ count ih =>
      rw [Nat.succ_mul, Nat.add_comm, goesOn_add]
      exact ⟨loop.running, ih loop.again⟩

theorem Loop.endless (loop : program.Loop state period) (covers : Covers state other)
    (ticks : Nat) : program.tick ticks other = .ok .running := by
  have enough : ticks < (ticks + 1) * period :=
    Nat.lt_of_lt_of_le (Nat.lt_succ_self ticks) (Nat.le_mul_of_pos_right _ loop.positive)
  exact (goesOn_of_covers (loop.rounds (ticks + 1)) covers).1 ticks enough

theorem endless_of_reached {reached : Nat} (running : program.GoesOn reached state)
    (endless : ∀ ticks, program.tick ticks (program.after reached state) = .ok .running)
    (ticks : Nat) : program.tick ticks state = .ok .running := by
  have whole : program.GoesOn (reached + (ticks + 1)) state :=
    goesOn_add.mpr ⟨running, fun earlier _ => endless earlier⟩
  exact whole ticks (by omega)

/-- Coming back to the same place with the same stack is the simplest loop. -/
theorem loop_of_recurrence {first second : Nat} (order : first < second)
    (running : ∀ ticks, first ≤ ticks → ticks < second → program.tick ticks state = .ok .running)
    (pc : (program.after second state).pc = (program.after first state).pc)
    (stack : (program.after second state).stack = (program.after first state).stack) :
    program.Loop (program.after first state) (second - first) := by
  have again : program.after (second - first) (program.after first state) =
      program.after second state := by
    rw [← after_add, Nat.add_sub_cancel' (Nat.le_of_lt order)]
  refine ⟨Nat.sub_pos_of_lt order, ?_, ?_, ?_⟩
  · intro earlier before
    rw [← tick_add]
    exact running (first + earlier) (Nat.le_add_right first earlier) (by omega)
  · rw [again, pc]
  · simp only [again, stack, List.prefix_refl]

/-- A loop never ends. From any state that is not halted, stands where the loop starts
and has its words on top of any others, whatever was printed before, every tick goes on;
so a run that comes there exceeds every bound. A run that is twice in the same place
with the same stack, and went on in between, neither halts nor faults. -/
theorem loop_never_ends (program : Program) :
    (∀ state period, program.Loop state period →
      (∀ other : State, other.halted = false → other.pc = state.pc →
        state.stack.toList <+: other.stack.toList →
        ∀ ticks, program.tick ticks other = .ok .running) ∧
      ∀ reached, program.GoesOn reached .start →
        (program.after reached .start).pc = state.pc →
        state.stack.toList <+: (program.after reached .start).stack.toList →
        ∀ bound, program.runWithin bound = program.limitAt bound) ∧
    ∀ state first second, first < second →
      (∀ ticks, first ≤ ticks → ticks < second → program.tick ticks state = .ok .running) →
      (program.after second state).pc = (program.after first state).pc →
      (program.after second state).stack = (program.after first state).stack →
      ∀ ticks, program.tick ticks state = .ok .running := by
  refine ⟨?_, ?_⟩
  · intro state period loop
    have endless : ∀ other : State, other.halted = false → other.pc = state.pc →
        state.stack.toList <+: other.stack.toList →
        ∀ ticks, program.tick ticks other = .ok .running := by
      intro other active pc stack
      exact loop.endless ⟨pc, active.trans loop.active.symm, stack⟩
    refine ⟨endless, ?_⟩
    intro reached running pc stack bound
    have later := endless _ (halted_after running) pc stack
    apply resumeWithin_of_running
    intro earlier _
    exact endless_of_reached running later earlier
  · intro state first second order running pc stack
    have before := goesOn_of_tick (running first (Nat.le_refl first) order)
    have loop := loop_of_recurrence order running pc stack
    exact endless_of_reached before (loop.endless (.refl _))

/-- A loop that prints and pushes one more word in each round. -/
theorem growing_loop_never_ends :
    ∃ program, Program.ofAddresses [.push .one, .print "x", .dup, .jump ⟨1⟩] = .ok program ∧
      program.Loop { State.start with pc := 1, stack := ⟨#[.one]⟩ } 3 ∧
      program.GoesOn 1 .start ∧
      (program.after 3 (program.after 1 .start)).stack.toList = [.one, .one] ∧
      ∀ bound, program.runWithin bound = program.limitAt bound := by
  refine ⟨_, rfl, ⟨by decide, by decide, by decide, by decide⟩, by decide, by decide, ?_⟩
  exact ((loop_never_ends _).1 { State.start with pc := 1, stack := ⟨#[.one]⟩ } 3
    ⟨by decide, by decide, by decide, by decide⟩).2 1 (by decide) (by decide) (by decide)

end Loops

end Program

end GateMachine
