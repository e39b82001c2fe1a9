import GateMachine.Proofs.ExactFaults

/-!
What every state of a run keeps to. `Bounded` bounds a state by the program and
by the number of steps taken so far; each step keeps it (`bounded_step`), so it
holds after any number of steps (`bounded_after`). The program counter leaves
the program in one way only, by going on from the last instruction
(`fallsOff_of_end`): jumps stay inside.
-/

namespace GateMachine

namespace Program

variable {program : Program} {state : State} {ticks : Nat}

section Steps

theorem after_succ (program : Program) (ticks : Nat) (state : State) :
    program.after (ticks + 1) state = (program.step (program.after ticks state)).2 :=
  after_add program ticks 1 state

theorem lt_size_of_fetched {index : Nat} {instruction : Instruction Address}
    (fetched : program.get? index = some instruction) : index < program.size := by
  apply Nat.lt_of_not_le
  intro past
  rw [get?_eq_none_iff.mpr past] at fetched
  contradiction

/-- No instruction adds more than one word to the stack. -/
theorem size_perform_le {instruction : Instruction Address}
    (enough : instruction.opcode.stackInputs ≤ state.stack.size) :
    (state.perform instruction enough).2.stack.size ≤ state.stack.size + 1 := by
  cases instruction with
  | push word | eq word => exact Nat.le_of_eq (Stack.size_push state.stack _)
  | dup => exact Nat.le_of_eq (Stack.size_dupAt state.stack 0 enough)
  | peek => exact Nat.le_of_eq (Stack.size_dupAt state.stack 1 enough)
  | replace word | inc =>
      exact Nat.le_succ_of_le (Nat.le_of_eq (Stack.size_set state.stack 0 _ enough))
  | jump address | printHead | print text | stop => exact Nat.le_succ _
  | pop =>
      simp only [State.perform, State.next, Stack.size_drop]
      omega
  | mod word =>
      simp only [State.perform]
      split
      · exact Nat.le_succ_of_le (Nat.le_of_eq (Stack.size_set state.stack 0 _ enough))
      · exact Nat.le_succ _
  | ifNZero address =>
      simp only [State.perform]
      split
      · simp only [State.next, Stack.size_drop]
        omega
      · simp only [State.goto, Stack.size_drop]
        omega

theorem size_step_le (program : Program) (state : State) :
    (program.step state).2.stack.size ≤ state.stack.size + 1 := by
  by_cases halted : state.halted = true
  · rw [step_of_halted halted]
    exact Nat.le_succ _
  have active : state.halted = false := by simpa using halted
  cases fetched : program.get? state.pc with
  | none =>
      rw [step_of_past_end active fetched]
      exact Nat.le_succ _
  | some instruction =>
      by_cases enough : instruction.opcode.stackInputs ≤ state.stack.size
      · rw [step_of_enough active fetched enough]
        exact size_perform_le enough
      · rw [step_of_short active fetched (Nat.lt_of_not_le enough)]
        exact Nat.le_succ _

theorem Outcome.output_size_le {result : Except Fault Tick × State}
    (outcome : Outcome program state result) :
    result.2.output.size ≤ state.output.size + 1 := by
  cases outcome with
  | print fetched text => simp [State.print]
  | _ => exact Nat.le_succ _

theorem Outcome.pc_le {result : Except Fault Tick × State}
    (outcome : Outcome program state result) (inside : state.pc ≤ program.size) :
    result.2.pc ≤ program.size := by
  cases outcome with
  | next fetched stack => exact lt_size_of_fetched fetched
  | print fetched text => exact lt_size_of_fetched fetched
  | goto address inside stack => exact Nat.le_of_lt inside
  | _ => exact inside

/-- A machine that a step leaves halted stands at `stop`, unless it had halted before. -/
theorem Outcome.stopped {result : Except Fault Tick × State}
    (outcome : Outcome program state result) (active : state.halted = false)
    (halted : result.2.halted = true) : program.get? result.2.pc = some .stop := by
  cases outcome with
  | stop fetched => exact fetched
  | idle before =>
      rw [active] at before
      contradiction
  | fault kind | next fetched stack | goto address inside stack | print fetched text =>
      have unchanged : state.halted = true := halted
      rw [active] at unchanged
      contradiction

end Steps

section Runs

/-- The bounds that a program and a number of steps put on a state. -/
structure Bounded (program : Program) (ticks : Nat) (state : State) : Prop where
  pc_le : state.pc ≤ program.size
  stack_le : state.stack.size ≤ ticks
  output_le : state.output.size ≤ ticks
  stopped : state.halted = true → program.get? state.pc = some .stop

theorem bounded_start (program : Program) : Bounded program 0 .start where
  pc_le := Nat.zero_le _
  stack_le := Nat.le_refl 0
  output_le := Nat.le_refl 0
  stopped := by
    intro halted
    contradiction

theorem bounded_step (bounded : Bounded program ticks state) :
    Bounded program (ticks + 1) (program.step state).2 where
  pc_le := (outcome_of_step program state).pc_le bounded.pc_le
  stack_le := Nat.le_trans (size_step_le program state) (Nat.succ_le_succ bounded.stack_le)
  output_le :=
    Nat.le_trans (outcome_of_step program state).output_size_le
      (Nat.succ_le_succ bounded.output_le)
  stopped := by
    intro halted
    by_cases before : state.halted = true
    · rw [step_of_halted before]
      exact bounded.stopped before
    · exact (outcome_of_step program state).stopped (by simpa using before) halted

theorem bounded_after (program : Program) (ticks : Nat) :
    Bounded program ticks (program.after ticks .start) := by
  induction ticks with
  | zero => exact bounded_start program
  | succ ticks ih =>
      rw [after_succ]
      exact bounded_step ih

end Runs

section End

/-- The step after `ticks` others goes on from the last instruction, and not to a
place that this instruction names. -/
def FallsOff (program : Program) (ticks : Nat) : Prop :=
  ∃ instruction, program.get? (program.after ticks .start).pc = some instruction ∧
    (program.after ticks .start).pc + 1 = program.size ∧
    (program.after (ticks + 1) .start).pc = program.size ∧
    ∀ address, instruction.target? = some address →
      (program.after (ticks + 1) .start).pc ≠ address.position

theorem fallsOff_of_arrival (before : (program.after ticks .start).pc ≠ program.size)
    (arrives : (program.after (ticks + 1) .start).pc = program.size) : program.FallsOff ticks := by
  have last : ∀ {instruction : Instruction Address},
      program.get? (program.after ticks .start).pc = some instruction →
      (program.after (ticks + 1) .start).pc = (program.after ticks .start).pc + 1 →
      program.FallsOff ticks := by
    intro instruction fetched goesOn
    refine ⟨instruction, fetched, goesOn.symm.trans arrives, arrives, ?_⟩
    intro address named same
    exact Nat.ne_of_lt (target_inside fetched named) (same.symm.trans arrives)
  have outcome := outcome_of_step program (program.after ticks .start)
  rw [after_succ] at arrives last
  generalize program.step (program.after ticks .start) = result at outcome arrives last
  cases outcome with
  | next fetched stack => exact last fetched rfl
  | print fetched text => exact last fetched rfl
  | goto address inside stack => exact absurd arrives (Nat.ne_of_lt inside)
  | idle _ => exact absurd arrives before
  | fault _ => exact absurd arrives before
  | stop _ => exact absurd arrives before

-- Going back from a state at the end, there is a first one, and a step led to it.
theorem fallsOff_of_end (ends : (program.after ticks .start).pc = program.size) :
    program.size = 0 ∨ ∃ earlier < ticks, program.FallsOff earlier := by
  induction ticks with
  | zero => exact .inl ends.symm
  | succ ticks ih =>
      by_cases before : (program.after ticks .start).pc = program.size
      · rcases ih before with empty | ⟨earlier, order, falls⟩
        · exact .inl empty
        · exact .inr ⟨earlier, Nat.lt_succ_of_lt order, falls⟩
      · exact .inr ⟨ticks, Nat.lt_succ_self ticks, fallsOff_of_arrival before ends⟩

theorem end_of_pcOutOfBounds {fault : Fault} {len : Nat}
    (faulted : program.tick ticks .start = .error fault) (kind : fault.kind = .pcOutOfBounds len) :
    len = program.size ∧ fault.pc = program.size ∧
      (program.after ticks .start).pc = program.size := by
  have inside := (bounded_after program ticks).pc_le
  rcases stepped : program.step (program.after ticks .start) with ⟨report, next⟩
  rw [tick, stepped] at faulted
  subst faulted
  have active : (program.after ticks .start).halted = false := by
    by_cases halted : (program.after ticks .start).halted = true
    · rw [step_of_halted halted] at stepped
      cases stepped
    · simpa using halted
  have fails : program.FailsWith (program.after ticks .start) (.pcOutOfBounds len) :=
    ⟨fault, by rw [stepped], kind⟩
  have place : fault.pc = (program.after ticks .start).pc := congrArg Fault.pc (fault_eq stepped)
  cases (failsWith_iff active).mp fails with
  | pastEnd absent =>
      have same := Nat.le_antisymm inside (get?_eq_none_iff.mp absent)
      exact ⟨rfl, place.trans same, same⟩

theorem toNat_succ {number : Nat} (fits : number + 1 < UInt64.size) :
    (UInt64.ofNat number + 1).toNat = number + 1 := by
  have small : number < UInt64.size := Nat.lt_of_succ_lt fits
  rw [UInt64.toNat_add, UInt64.toNat_ofNat_of_lt' small]
  exact Nat.mod_eq_of_lt fits

/-- After any number of steps, also beyond a halt or a fault, the program counter
is at most the length of the program, no more words are on the stack and no more
texts are printed than steps were taken, what was printed before is still there, and
a halted machine stands at `stop`. The program counter is past the program only
at its very end, where it came without a jump; so its successor is a 64-bit
number wherever the length is one. -/
theorem reachable_bounded (program : Program) (ticks : Nat) :
    Bounded program ticks (program.after ticks .start) ∧
    (∀ earlier ≤ ticks, (program.after earlier .start).output.toList <+:
      (program.after ticks .start).output.toList) ∧
    (∀ fault len, program.tick ticks .start = .error fault →
      fault.kind = .pcOutOfBounds len →
        len = program.size ∧ fault.pc = program.size ∧
          (program.size = 0 ∨ ∃ earlier < ticks, program.FallsOff earlier)) ∧
    (program.size < UInt64.size → ∀ instruction,
      program.get? (program.after ticks .start).pc = some instruction →
        (UInt64.ofNat (program.after ticks .start).pc + 1).toNat =
          (program.after ticks .start).pc + 1) ∧
    (program.size + 1 < UInt64.size →
      (UInt64.ofNat (program.after ticks .start).pc + 1).toNat =
        (program.after ticks .start).pc + 1) := by
  have bounded := bounded_after program ticks
  refine ⟨bounded, ?_, ?_, ?_, ?_⟩
  · intro earlier order
    exact output_prefix_of_le program order .start
  · intro fault len faulted kind
    obtain ⟨length, place, ends⟩ := end_of_pcOutOfBounds faulted kind
    exact ⟨length, place, fallsOff_of_end ends⟩
  · intro fits instruction fetched
    exact toNat_succ (Nat.lt_of_le_of_lt (lt_size_of_fetched fetched) fits)
  · intro fits
    exact toNat_succ (Nat.lt_of_le_of_lt (Nat.succ_le_succ bounded.pc_le) fits)

end End

end Program

end GateMachine
